import MatrixLang.Proofs.Completeness.Declaration
import MatrixLang.Proofs.Soundness.Declaration
import MatrixLang.Proofs.Words.Statement

/-!
# The parser accepts its grammar

Parsing a stream first pulls its first token.  From there on what the parser
takes is a word of the grammar and the module it yields is read from it
(`parseModule_of_ok`); and from the tokens that a module can be read from it is
parsed (`parseModule_of_reads`).  Since every word of the grammar can be read, a
list of tokens is accepted exactly when its kinds are a word of the grammar and
its literals have values.
-/

namespace MatrixLang

namespace Form

/-- Neither the end of the file nor an unreadable token occurs in a form. -/
def isProper : Form -> Bool
  | .empty => true
  | .kind expected => expected != .endOfFile && expected != .invalid
  | .symbol _ => true
  | .seq first second => first.isProper && second.isProper
  | .choice first second => first.isProper && second.isProper
  | .many part => part.isProper

theorem isProper_form (symbol : Symbol) : symbol.form.isProper = true := by
  cases symbol with
  | tier layer => cases layer <;> rfl
  | statement => rfl

/-- Neither the end of the file nor an unreadable token occurs in a word. -/
theorem Derives.proper
    {form : Form}
    {word : List Token.Kind}
    (derived : form.Derives word)
    (proper : form.isProper = true) :
    ∀ kind ∈ word, kind ≠ .endOfFile ∧ kind ≠ .invalid := by
  induction derived with
  | empty | none =>
      intro kind member
      cases member
  | kind expected =>
      intro kind member
      cases List.mem_singleton.1 member
      simpa [isProper] using proper
  | @symbol symbol word production inductionHypothesis =>
      exact inductionHypothesis (isProper_form symbol)
  | seq frontDerived backDerived frontHypothesis backHypothesis =>
      rw [isProper, Bool.and_eq_true] at proper
      intro kind member
      rcases List.mem_append.1 member with early | late
      · exact frontHypothesis proper.1 kind early
      · exact backHypothesis proper.2 kind late
  | left derived inductionHypothesis =>
      rw [isProper, Bool.and_eq_true] at proper
      exact inductionHypothesis proper.1
  | right derived inductionHypothesis =>
      rw [isProper, Bool.and_eq_true] at proper
      exact inductionHypothesis proper.2
  | more frontDerived backDerived frontHypothesis backHypothesis =>
      intro kind member
      rcases List.mem_append.1 member with early | late
      · exact frontHypothesis proper kind early
      · exact backHypothesis proper kind late

end Form

/-! ## Replies of the parser -/

/-- Behind the first token of a stream, parsing it is parsing a module. -/
theorem parseModule_of_next?
    {source : TokenStream}
    {start : Spot}
    (found : (Spot.before source).next? = some start) :
    ∃ log, parseModule source = Grammar.module.parse (start.cursor log) := by
  have first : (Cursor.before source).spot.next? = some start := found
  obtain ⟨log, advanced⟩ := Spot.advance_of_next? first
  refine ⟨log, ?_⟩
  rw [parseModule, Parser.parse_advance, advanced]
  rfl

/-- What the reply of a parser means that takes words of a form. -/
theorem Parser.Parses.meets
    {α : Type}
    {form : Form}
    {reads : List Token -> α -> Token -> Prop}
    {parser : Parser α}
    (parses : parser.Parses Grammar.contract form [] reads)
    (cursor : Cursor) :
    (parser.parse cursor).Meets form.Derives
      (fun value tokens after =>
        form.Derives (kinds tokens) ∧ reads tokens value after)
      cursor.spot [] := by
  apply Contract.meets_parse Grammar.holds_contract
  apply parses
  · rintro word (derived | ⟨front, closer, member, -⟩)
    · exact ⟨[], by rwa [List.append_nil]⟩
    · cases member
  · exact fun value tokens after derived read _ => ⟨derived, read⟩

/-- What a reply to a module means. -/
theorem meets_module
    (cursor : Cursor) :
    (Grammar.module.parse cursor).Meets Form.module.Derives
      (fun module tokens after => Form.module.Derives (kinds tokens) ∧
        module.Reads tokens after ∧ after.kind = .endOfFile)
      cursor.spot [] :=
  Grammar.parses_module.meets cursor

/--
A module that is yielded is read from the tokens in front of the end of the
file.
-/
theorem parseModule_of_ok
    {source : TokenStream}
    {module : Module}
    (parsed : (parseModule source).result = .ok module) :
    ∃ start tokens, (Spot.before source).next? = some start ∧
      start.Moves tokens (parseModule source).cursor.spot ∧
        (∀ token ∈ tokens, token.Readable) ∧
          Form.module.Derives (kinds tokens) ∧
          module.Reads tokens (parseModule source).cursor.current ∧
            (parseModule source).cursor.current.kind = .endOfFile := by
  cases found : (Spot.before source).next? with
  | none =>
      have first : (Cursor.before source).spot.next? = none := found
      obtain ⟨token, rest, log, -, -, failed⟩ :=
        Spot.advance_of_next?_none first
      rw [parseModule, Parser.parse_advance, failed] at parsed
      cases parsed
  | some start =>
      obtain ⟨log, reply⟩ := parseModule_of_next? found
      have meets := meets_module (start.cursor log)
      rw [← reply, Reply.Meets, parsed] at meets
      obtain ⟨tokens, moves, readable, derived, read, ended⟩ := meets
      exact ⟨start, tokens, rfl, moves, readable, derived, read, ended⟩

/-- From tokens that a module can be read from it is parsed. -/
theorem parseModule_of_reads
    {source : TokenStream}
    {module : Module}
    {start stop : Spot}
    {tokens : List Token}
    (found : (Spot.before source).next? = some start)
    (moves : start.Moves tokens stop)
    (ended : stop.current.kind = .endOfFile)
    (reads : module.Reads tokens stop.current) :
    (parseModule source).result = .ok module ∧
      (parseModule source).cursor.spot = stop := by
  obtain ⟨log, reply⟩ := parseModule_of_next? found
  obtain ⟨lastLog, taken⟩ := reads.takes ended (start.cursor log) stop moves rfl
  rw [reply, taken]
  exact ⟨rfl, rfl⟩

/-! ## Lists of tokens -/

/-- A list of readable tokens can be moved over up to its end. -/
theorem moves_listed
    {tokens : List Token}
    (proper : ∀ token ∈ tokens,
      token.kind ≠ .endOfFile ∧ token.kind ≠ .invalid) :
    ∃ start stop, (Spot.before (.listed tokens)).next? = some start ∧
      start.Moves tokens stop ∧
      stop.current = endOf tokens ∧ stop.source.tokens = [] := by
  cases tokens with
  | nil => exact ⟨_, _, rfl, .stay _, rfl, rfl⟩
  | cons token rest =>
      have known : (TokenStream.listed rest).tokens = rest := rfl
      obtain ⟨behind, moves, remaining⟩ := Spot.moves_to_end known
        (fun other member => (proper other member).1)
        (fun other member => (proper other (List.mem_cons_of_mem _ member)).2)
      refine ⟨_, _, ?_, moves, ?_, remaining⟩
      · exact if_neg (proper token (List.mem_cons_self ..)).2
      · rw [endOf, Spot.endBehind_cons]

/-- A list of tokens is accepted when its kinds are a word of the grammar. -/
theorem parseModule_of_derives
    {tokens : List Token}
    (derived : Form.module.Derives (kinds tokens))
    (readable : ∀ token ∈ tokens, token.Readable) :
    ∃ module, (parseModule (.listed tokens)).result = .ok module := by
  have proper :
      ∀ token ∈ tokens, token.kind ≠ .endOfFile ∧ token.kind ≠ .invalid :=
    fun token member =>
      derived.proper rfl token.kind (List.mem_map_of_mem member)
  obtain ⟨start, stop, found, moves, last, -⟩ := moves_listed proper
  obtain ⟨module, reads⟩ := derived.readable_module readable stop.current
  have ended : stop.current.kind = .endOfFile := by
    rw [last]
    rfl
  exact ⟨module, (parseModule_of_reads found moves ended reads).1⟩

/--
Without an end of the file among them, all the tokens of an accepted list are
taken.
-/
theorem parseModule_listed_whole
    {tokens : List Token}
    {module : Module}
    (inside : ∀ token ∈ tokens, token.kind ≠ .endOfFile)
    (parsed : (parseModule (.listed tokens)).result = .ok module) :
    (Form.module.Derives (kinds tokens) ∧ ∀ token ∈ tokens, token.Readable) ∧
      (parseModule (.listed tokens)).cursor.source.tokens = [] ∧
        (parseModule (.listed tokens)).cursor.current = endOf tokens ∧
          module.Reads tokens (endOf tokens) := by
  obtain ⟨start, taken, found, moves, readable, derived, reads, ended⟩ :=
    parseModule_of_ok parsed
  rcases Spot.Moves.tokens_eq found moves with more | ⟨all, empty, last⟩
  · -- The lookahead token would be an end of the file within the list.
    have listed : tokens =
        taken ++ (parseModule (.listed tokens)).cursor.spot.tokens := more
    have member : (parseModule (.listed tokens)).cursor.current ∈
        taken ++ (parseModule (.listed tokens)).cursor.spot.tokens :=
      List.mem_append_right _ (List.mem_cons_self ..)
    rw [← listed] at member
    exact absurd ended (inside _ member)
  · have same : tokens = taken := all
    subst same
    have lookahead :
        (parseModule (.listed tokens)).cursor.current = endOf tokens := last
    rw [lookahead] at reads
    exact ⟨⟨derived, readable⟩, empty, lookahead, reads⟩

/--
What is accepted is a word of the grammar, taken to its end, and read as one
module only.
-/
theorem parseModule_listed_of_ok
    {tokens : List Token}
    {module : Module}
    (proper : ∀ token ∈ tokens, token.kind ≠ .endOfFile ∧ token.kind ≠ .invalid)
    (parsed : (parseModule (.listed tokens)).result = .ok module) :
    (Form.module.Derives (kinds tokens) ∧ ∀ token ∈ tokens, token.Readable) ∧
      (parseModule (.listed tokens)).cursor.source.tokens = [] ∧
        (parseModule (.listed tokens)).cursor.current = endOf tokens ∧
          module.Reads tokens (endOf tokens) :=
  parseModule_listed_whole (fun token member => (proper token member).1) parsed

/-- At most one module can be read from a list of tokens. -/
theorem reads_unique
    {tokens : List Token}
    {module other : Module}
    (proper : ∀ token ∈ tokens, token.kind ≠ .endOfFile ∧ token.kind ≠ .invalid)
    (reads : module.Reads tokens (endOf tokens))
    (otherReads : other.Reads tokens (endOf tokens)) :
    other = module := by
  obtain ⟨start, stop, found, moves, last, -⟩ := moves_listed proper
  rw [← last] at reads otherReads
  have ended : stop.current.kind = .endOfFile := by
    rw [last]
    rfl
  have parsed := (parseModule_of_reads found moves ended reads).1
  have otherParsed := (parseModule_of_reads found moves ended otherReads).1
  rw [parsed] at otherParsed
  cases otherParsed
  rfl

/--
A list of tokens is accepted exactly when its kinds are a word of the grammar
and its literals have values.  Then all of it has been taken, and the module is
the only one that can be read from it.
-/
theorem parseModule_accepts
    (tokens : List Token)
    (proper : ∀ token ∈ tokens,
      token.kind ≠ .endOfFile ∧ token.kind ≠ .invalid) :
    ((∃ module, (parseModule (.listed tokens)).result = .ok module) ↔
        Form.module.Derives (kinds tokens) ∧ ∀ token ∈ tokens, token.Readable) ∧
      ∀ module, (parseModule (.listed tokens)).result = .ok module ->
        (parseModule (.listed tokens)).cursor.source.tokens = [] ∧
          (parseModule (.listed tokens)).cursor.current = endOf tokens ∧
            ∀ other : Module,
              other.Reads tokens (endOf tokens) ↔ other = module := by
  refine ⟨⟨?_, ?_⟩, ?_⟩
  · rintro ⟨module, parsed⟩
    exact (parseModule_listed_of_ok proper parsed).1
  · rintro ⟨derived, readable⟩
    exact parseModule_of_derives derived readable
  · intro module parsed
    obtain ⟨-, empty, last, reads⟩ := parseModule_listed_of_ok proper parsed
    refine ⟨empty, last, fun other => ⟨fun otherReads => ?_, ?_⟩⟩
    · exact reads_unique proper reads otherReads
    · rintro rfl
      exact reads

/--
The tokens of a record type and of a function with a switch, whose default
stands between its cases.
-/
def recordAndSwitch : List Token :=
  (tokenize
    ("record pair \x7b val int first; \x7d " ++
      "function int pick(int key) \x7b " ++
      "switch (2 * key + 1 < 9) \x7b " ++
      "case 1: \x7b\x7d default: return -key ^ 2; case 2: \x7b\x7d " ++
      "\x7d \x7d")).dropLast

/-- The kinds of those tokens; their literals have values. -/
theorem scanned_recordAndSwitch :
    kinds recordAndSwitch =
        [.recordWord, .identifier, .openCurly, .valWord, .intWord, .identifier,
          .semicolon, .closeCurly, .functionWord, .intWord, .identifier,
          .openParen, .intWord, .identifier, .closeParen, .openCurly,
          .switchWord, .openParen, .intLiteral, .star, .identifier, .plus,
          .intLiteral, .less, .intLiteral, .closeParen, .openCurly, .caseWord,
          .intLiteral, .colon, .openCurly, .closeCurly, .defaultWord, .colon,
          .returnWord, .dash, .identifier, .caret, .intLiteral, .semicolon,
          .caseWord, .intLiteral, .colon, .openCurly, .closeCurly, .closeCurly,
          .closeCurly] ∧
      ∀ token ∈ recordAndSwitch, token.Readable := by
  decide +kernel

/-- A product is an operand of a sum, and the sum is one of a comparison. -/
theorem derives_comparison :
    Form.expression.Derives
      [.intLiteral, .star, .identifier, .plus, .intLiteral, .less,
        .intLiteral] := by
  have product : (Form.tier .multiplicative).Derives
      [.intLiteral, .star, .identifier] :=
    .binary .multiplicative (.integer _)
      (.oneOf (by simp) (.kind .star)) (.name _)
  have sum : (Form.tier .additive).Derives
      [.intLiteral, .star, .identifier, .plus, .intLiteral] :=
    .binary .additive product (.oneOf (by simp) (.kind .plus)) (.integer _)
  have comparison : (Form.tier .comparison).Derives
      [.intLiteral, .star, .identifier, .plus, .intLiteral, .less,
        .intLiteral] :=
    .binary .comparison sum (.oneOf (by simp) (.kind .less)) (.integer _)
  exact .loosenBy 4 comparison

/-- A power stands behind a sign. -/
theorem derives_negatedPower :
    Form.expression.Derives [.dash, .identifier, .caret, .intLiteral] := by
  have exponent : (Form.sequence [.kind .caret, .tier .power]).Derives
      [.caret, .intLiteral] :=
    .seq (.kind .caret) (.seq (.integer _) .empty)
  have power : (Form.tier .power).Derives [.identifier, .caret, .intLiteral] :=
    .symbol (.seq (.name _) (.seq (.present exponent) .empty))
  have negated : (Form.tier .minus).Derives
      [.dash, .identifier, .caret, .intLiteral] :=
    .symbol (.seq (.present (.kind .dash)) (.seq power .empty))
  exact .loosenBy 7 negated

/-- The default of a switch may stand between its cases. -/
theorem derives_switch :
    Form.statement.Derives
      [.switchWord, .openParen, .intLiteral, .star, .identifier, .plus,
        .intLiteral, .less, .intLiteral, .closeParen, .openCurly, .caseWord,
        .intLiteral, .colon, .openCurly, .closeCurly, .defaultWord, .colon,
        .returnWord, .dash, .identifier, .caret, .intLiteral, .semicolon,
        .caseWord, .intLiteral, .colon, .openCurly, .closeCurly,
        .closeCurly] := by
  have case : Form.case.Derives
      [.caseWord, .intLiteral, .colon, .openCurly, .closeCurly] :=
    .seq (.kind .caseWord) (.seq (.integer _)
      (.seq (.kind .colon) (.seq .emptyBlock .empty)))
  have value : Form.returnValue.Derives
      [.returnWord, .dash, .identifier, .caret, .intLiteral, .semicolon] :=
    .seq (.kind .returnWord)
      (.seq derives_negatedPower (.seq (.kind .semicolon) .empty))
  have body : Form.statement.Derives
      [.returnWord, .dash, .identifier, .caret, .intLiteral, .semicolon] :=
    .symbol (value.oneOf (by simp))
  have otherwise : Form.otherwise.Derives
      [.defaultWord, .colon, .returnWord, .dash, .identifier, .caret,
        .intLiteral, .semicolon] :=
    .seq (.kind .defaultWord) (.seq (.kind .colon) (.seq body .empty))
  have clauses : Form.clauses.Derives
      [.caseWord, .intLiteral, .colon, .openCurly, .closeCurly, .defaultWord,
        .colon, .returnWord, .dash, .identifier, .caret, .intLiteral,
        .semicolon, .caseWord, .intLiteral, .colon, .openCurly, .closeCurly] :=
    .seq (.more case .none)
      (.seq (.present (.seq otherwise (.seq (.more case .none) .empty)))
        .empty)
  have test : (Form.enclosed .openParen .closeParen).Derives
      [.openParen, .intLiteral, .star, .identifier, .plus, .intLiteral, .less,
        .intLiteral, .closeParen] :=
    .seq (.kind .openParen)
      (.seq derives_comparison (.seq (.kind .closeParen) .empty))
  have switch : Form.switch.Derives _ :=
    .seq (.kind .switchWord) (.seq test (.seq (.kind .openCurly)
      (.seq clauses (.seq (.kind .closeCurly) .empty))))
  exact .symbol (switch.oneOf (by simp))

theorem derives_recordAndSwitch :
    Form.module.Derives (kinds recordAndSwitch) := by
  have type : Form.type.Derives [.intWord] := .oneOf (by simp) (.kind .intWord)
  have binding : Form.binding.Derives [.valWord, .intWord, .identifier] :=
    .seq (.oneOf (by simp) (.kind .valWord))
      (.seq type (.seq (.kind .identifier) .empty))
  have element : Form.recordElement.Derives
      [.valWord, .intWord, .identifier, .semicolon] :=
    .seq binding (.seq (.kind .semicolon) .empty)
  have record : Form.record.Derives
      [.recordWord, .identifier, .openCurly, .valWord, .intWord, .identifier,
        .semicolon, .closeCurly] :=
    .seq (.kind .recordWord) (.seq (.kind .identifier) (.seq (.kind .openCurly)
      (.seq element (.seq .none (.seq (.kind .closeCurly) .empty)))))
  have parameter : Form.parameter.Derives [.intWord, .identifier] :=
    .seq type (.seq (.kind .identifier) .empty)
  have parameters : (Form.parenthesized .parameter).Derives
      [.openParen, .intWord, .identifier, .closeParen] :=
    .seq (.kind .openParen)
      (.seq (.present (.seq parameter (.seq .none .empty)))
        (.seq (.kind .closeParen) .empty))
  have block : Form.block.Derives _ :=
    .seq (.kind .openCurly) (.seq (.more derives_switch .none)
      (.seq (.kind .closeCurly) .empty))
  have function : Form.function.Derives _ :=
    .seq (.kind .functionWord) (.seq type (.seq (.kind .identifier)
      (.seq parameters (.seq block .empty))))
  rw [scanned_recordAndSwitch.1]
  exact .more (.right record) (.more (.left function) .none)

/--
A record type and a function with a switch are accepted, taken to their end and
read as one module only.
-/
theorem parseModule_accepts_recordAndSwitch :
    (∀ token ∈ recordAndSwitch,
      token.kind ≠ .endOfFile ∧ token.kind ≠ .invalid) ∧
      ∃ module, (parseModule (.listed recordAndSwitch)).result = .ok module ∧
        (parseModule (.listed recordAndSwitch)).cursor.source.tokens = [] ∧
          ∀ other : Module,
            other.Reads recordAndSwitch (endOf recordAndSwitch) ↔
              other = module := by
  have derived := derives_recordAndSwitch
  have proper : ∀ token ∈ recordAndSwitch,
      token.kind ≠ .endOfFile ∧ token.kind ≠ .invalid :=
    fun token member =>
      derived.proper rfl token.kind (List.mem_map_of_mem member)
  obtain ⟨accepted, whole⟩ := parseModule_accepts recordAndSwitch proper
  obtain ⟨module, parsed⟩ := accepted.2 ⟨derived, scanned_recordAndSwitch.2⟩
  obtain ⟨empty, -, unique⟩ := whole module parsed
  exact ⟨proper, module, parsed, empty, unique⟩

end MatrixLang
