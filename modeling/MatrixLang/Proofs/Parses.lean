import MatrixLang.Proofs.Contract

/-!
# Parsers that follow forms

`Parser.ParsesAt` says that a parser, started at a lookahead token, takes words
of a form, reads trees from their tokens and never leaves the way to a word of
the form, wherever it is used.  The lemmas go along with the ways in which the
parsers of the grammar are put together.
-/

namespace MatrixLang
namespace Parser

variable {α β : Type} {contract : Contract}

/--
Started at a lookahead token, in any context that goes on behind the words of a
form, a parser takes a word of the form and reads a tree from its tokens.
-/
def ParsesAt
    (contract : Contract)
    (token : Token)
    (form : Form)
    (closers : List Token.Kind)
    (reads : List Token -> α -> Token -> Prop)
    (parser : Parser α) : Prop :=
  ∀ (goal : List Token.Kind -> Prop) (post : α -> List Token -> Token -> Prop)
    (taken : List Token),
    (∀ word,
      form.Completes closers word -> Extends goal (kinds taken ++ word)) ->
    (∀ value tokens after,
      form.Derives (kinds tokens) -> reads tokens value after ->
        Starts token tokens after -> post value (taken ++ tokens) after) ->
    parser.Keeps contract goal post token taken

/--
A parser takes a word of a form and reads a tree from its tokens, wherever it
starts.
-/
def Parses
    (contract : Contract)
    (form : Form)
    (closers : List Token.Kind)
    (reads : List Token -> α -> Token -> Prop)
    (parser : Parser α) : Prop :=
  ∀ token, parser.ParsesAt contract token form closers reads

section Composition

variable {token : Token} {form second : Form} {closers : List Token.Kind}
  {reads : List Token -> α -> Token -> Prop}

/--
A word of a form with a closing kind behind it leads on where that kind starts
what follows.
-/
theorem extends_seq
    {goal : List Token.Kind -> Prop}
    {laterClosers : List Token.Kind}
    {taken : List Token}
    (opens : ∀ closer ∈ closers, second.Opens closer)
    (leads : ∀ word, (Form.seq form second).Completes laterClosers word ->
      Extends goal (kinds taken ++ word))
    {word : List Token.Kind}
    (complete : form.Completes closers word) :
    Extends goal (kinds taken ++ word) := by
  rcases complete with derived | ⟨front, closer, member, rfl, derived⟩
  · obtain ⟨rest, restDerived⟩ := second.exists_derives
    have longer := leads _ (.inl (.seq derived restDerived))
    rw [← List.append_assoc] at longer
    exact longer.of_append
  · obtain ⟨rest, restDerived⟩ := opens closer member
    have longer := leads _ (.inl (.seq derived restDerived))
    rw [List.append_cons front, ← List.append_assoc] at longer
    exact longer.of_append

/--
A sequence of parsers takes a sequence of words; the first part may expect a
closing kind.
-/
theorem ParsesAt.bindOpen
    {laterClosers : List Token.Kind}
    {parser : Parser α}
    {next : α -> Parser β}
    {whole : List Token -> β -> Token -> Prop}
    (opens : ∀ closer ∈ closers, second.Opens closer)
    (first : parser.ParsesAt contract token form closers reads)
    (rest : ∀ value front middle, reads front value middle ->
      Starts token front middle -> (next value).ParsesAt contract middle second
        laterClosers fun back => whole (front ++ back)) :
    (parser.bind next).ParsesAt contract token (.seq form second)
      laterClosers whole := by
  intro goal post taken leads ends
  refine (keeps_bind contract).2 (first goal _ taken ?_ ?_)
  · intro word complete
    exact extends_seq opens leads complete
  · intro value front middle derived read starts
    refine rest value front middle read starts goal post (taken ++ front) ?_ ?_
    · intro word complete
      rw [kinds_append, List.append_assoc]
      refine leads _ ?_
      rcases complete with behind | ⟨inner, closer, member, rfl, behind⟩
      · exact .inl (.seq derived behind)
      · refine .inr ⟨kinds front ++ inner, closer, member, ?_,
          .seq derived behind⟩
        rw [List.append_assoc]
    · intro result back after backDerived backRead backStarts
      rw [List.append_assoc]
      refine ends result (front ++ back) after ?_ backRead
        (starts.trans backStarts)
      rw [kinds_append]
      exact .seq derived backDerived

/-- A sequence of parsers takes a sequence of words. -/
theorem ParsesAt.bind
    {laterClosers : List Token.Kind}
    {parser : Parser α}
    {next : α -> Parser β}
    {whole : List Token -> β -> Token -> Prop}
    (first : parser.ParsesAt contract token form [] reads)
    (rest : ∀ value front middle, reads front value middle ->
      Starts token front middle -> (next value).ParsesAt contract middle second
        laterClosers fun back => whole (front ++ back)) :
    (parser.bind next).ParsesAt contract token (.seq form second)
      laterClosers whole :=
  first.bindOpen (fun _ member => by cases member) rest

/-- A part that may expect a closing kind stands in front of that kind. -/
theorem ParsesAt.bindClosing
    {kind : Token.Kind}
    {behind : Form}
    {laterClosers : List Token.Kind}
    {parser : Parser α}
    {next : α -> Parser β}
    {whole : List Token -> β -> Token -> Prop}
    (first : parser.ParsesAt contract token form [kind] reads)
    (rest : ∀ value front middle, reads front value middle -> Starts token front
      middle -> (next value).ParsesAt contract middle (.seq (.kind kind) behind)
      laterClosers fun back => whole (front ++ back)) :
    (parser.bind next).ParsesAt contract token
      (.seq form (.seq (.kind kind) behind))
      laterClosers whole := by
  refine first.bindOpen ?_ rest
  intro closer member
  cases List.mem_singleton.1 member
  exact (Form.Opens.single kind).seq

/-- A value that is made from what the last part of a sequence reads. -/
theorem ParsesAt.last
    {parser : Parser α}
    {whole : List Token -> β -> Token -> Prop}
    {make : α -> β}
    (parses : parser.ParsesAt contract token form closers reads)
    (read : ∀ value tokens after, reads tokens value after ->
      Starts token tokens after -> whole tokens (make value) after) :
    (parser.bind fun value => .finish (make value)).ParsesAt contract token
      (.seq form .empty) closers whole := by
  intro goal post taken leads ends
  refine (keeps_bind contract).2 (parses goal _ taken ?_ ?_)
  · rintro word (derived | ⟨front, closer, member, rfl, derived⟩)
    · exact leads word (.inl derived.seq_empty)
    · exact leads _ (.inr ⟨front, closer, member, rfl, derived.seq_empty⟩)
  · intro value tokens after derived taken starts
    exact ends (make value) tokens after derived.seq_empty
      (read value tokens after taken starts) starts

/-- More words may be allowed. -/
theorem ParsesAt.words
    {wider : Form}
    {parser : Parser α}
    (included : ∀ word, form.Derives word -> wider.Derives word)
    (parses : parser.ParsesAt contract token form closers reads) :
    parser.ParsesAt contract token wider closers reads := by
  intro goal post taken leads ends
  refine parses goal post taken ?_ ?_
  · rintro word (derived | ⟨front, closer, member, rfl, derived⟩)
    · exact leads word (.inl (included word derived))
    · exact leads _ (.inr ⟨front, closer, member, rfl, included front derived⟩)
  · intro value tokens after derived read starts
    exact ends value tokens after (included _ derived) read starts

/-- More words may be allowed in the first part of a sequence. -/
theorem ParsesAt.front
    {wider : Form}
    {parser : Parser α}
    (included : ∀ word, form.Derives word -> wider.Derives word)
    (parses : parser.ParsesAt contract token (.seq form second) closers reads) :
    parser.ParsesAt contract token (.seq wider second) closers reads := by
  refine parses.words fun word derived => ?_
  cases derived with
  | seq frontDerived backDerived =>
      exact .seq (included _ frontDerived) backDerived

/-- More trees may be allowed. -/
theorem ParsesAt.trees
    {weaker : List Token -> α -> Token -> Prop}
    {parser : Parser α}
    (parses : parser.ParsesAt contract token form closers reads)
    (included : ∀ value tokens after, reads tokens value after ->
      Starts token tokens after -> weaker tokens value after) :
    parser.ParsesAt contract token form closers weaker := by
  intro goal post taken leads ends
  refine parses goal post taken leads
    fun value tokens after derived read starts => ?_
  exact ends value tokens after derived
    (included value tokens after read starts) starts

end Composition

section Choices

variable {token : Token} {form : Form} {closers : List Token.Kind}
  {reads : List Token -> α -> Token -> Prop} {parser : Parser α}

/-- The production of a nonterminal is parsed in its place. -/
theorem ParsesAt.symbol
    {symbol : Symbol}
    (parses : parser.ParsesAt contract token symbol.form closers reads) :
    parser.ParsesAt contract token (.symbol symbol) closers reads :=
  parses.words fun _ derived => .symbol derived

/-- One of several forms is parsed in place of their choice. -/
theorem ParsesAt.oneOf
    {first : Form}
    {forms : List Form}
    (parses : parser.ParsesAt contract token form closers reads)
    (member : form ∈ first :: forms) :
    parser.ParsesAt contract token (.oneOf first forms) closers reads :=
  parses.words fun _ derived => derived.oneOf member

theorem ParsesAt.present
    (parses : parser.ParsesAt contract token form closers reads) :
    parser.ParsesAt contract token (.optional form) closers reads :=
  parses.words fun _ derived => derived.present

theorem ParsesAt.absent
    (parses : parser.ParsesAt contract token .empty closers reads) :
    parser.ParsesAt contract token (.optional form) closers reads :=
  parses.words fun _ derived => .right derived

/-- Nothing has to follow the last part of a sequence. -/
theorem ParsesAt.final
    (parses : parser.ParsesAt contract token form closers reads) :
    parser.ParsesAt contract token (.seq form .empty) closers reads :=
  parses.words fun _ derived => derived.seq_empty

theorem ParsesAt.none
    (parses : parser.ParsesAt contract token .empty closers reads) :
    parser.ParsesAt contract token (.many form) closers reads := by
  refine parses.words fun word derived => ?_
  cases derived
  exact .none

/-- A word in front of a repetition goes on with it. -/
theorem ParsesAt.more
    (parses : parser.ParsesAt contract token (.sequence [form, .many form])
      closers reads) :
    parser.ParsesAt contract token (.many form) closers reads := by
  refine parses.words fun word derived => ?_
  cases derived with
  | seq frontDerived backDerived =>
      exact .more frontDerived backDerived.of_seq_empty

/-- Two parts in front of a repetition of both go on with it. -/
theorem ParsesAt.morePairs
    {first second : Form}
    (parses : parser.ParsesAt contract token (.sequence [first, second,
      .many (.sequence [first, second])]) closers reads) :
    parser.ParsesAt contract token (.many (.sequence [first, second]))
      closers reads := by
  refine parses.words fun word derived => ?_
  rcases derived with
    _ | _ | _ | ⟨firstDerived, _ | _ | _ | ⟨secondDerived, behind⟩⟩
  rw [← List.append_assoc]
  exact .more (.seq firstDerived secondDerived.seq_empty) behind.of_seq_empty

end Choices

section Primitives

variable {token : Token} {form : Form} {closers : List Token.Kind}
  {reads : List Token -> α -> Token -> Prop}

/-- A parser that does nothing but yield a value takes no token. -/
theorem parsesAt_finish
    {value : α}
    (read : reads [] value token) :
    (Parser.finish value).ParsesAt contract token .empty closers reads := by
  intro goal post taken leads ends
  have reached := ends value [] token .empty read rfl
  rwa [List.append_nil] at reached

/-- What goes on by the lookahead token parses as what it goes on with. -/
theorem parsesAt_current
    {next : Token -> Parser α}
    (parses : (next token).ParsesAt contract token form closers reads) :
    (current.bind next).ParsesAt contract token form closers reads :=
  parses

theorem parsesAt_here
    {next : Position -> Parser α}
    (parses :
      (next token.position).ParsesAt contract token form closers reads) :
    (here.bind next).ParsesAt contract token form closers reads :=
  parses

theorem parsesAt_emit
    {event : Event}
    {next : Unit -> Parser α}
    (parses : (next ()).ParsesAt contract token form closers reads) :
    ((emit event).bind next).ParsesAt contract token form closers reads :=
  parses

/-- A call of a rule parses as the contract says. -/
theorem parses_apply
    (rule : Rule) :
    (apply rule).Parses contract (contract.form rule) (contract.closers rule)
      (contract.reads rule) := by
  intro token goal post taken leads ends
  refine ⟨leads, fun value tokens after reached starts => ?_⟩
  exact ends value tokens after reached.1 reached.2 starts

/-- Moving over a readable token takes that token. -/
theorem parsesAt_skip
    {kind : Token.Kind}
    {next : Unit -> Parser α}
    (same : token.kind = kind)
    (inside : kind ≠ .endOfFile)
    (readable : token.Readable)
    (rest : ∀ after, (next ()).ParsesAt contract after form closers fun back =>
      reads (token :: back)) :
    (skip.bind next).ParsesAt contract token (.seq (.kind kind) form)
      closers reads := by
  subst same
  intro goal post taken leads ends
  refine ⟨inside, readable, ?_, fun after => ?_⟩
  · obtain ⟨word, derived⟩ := form.exists_derives
    have longer := leads _ (.inl (.seq (.kind token.kind) derived))
    rw [← List.append_assoc] at longer
    rw [kinds_append]
    exact longer.of_append
  · refine rest after goal post (taken ++ [token]) ?_ ?_
    · intro word complete
      rw [kinds_append, List.append_assoc]
      refine leads _ ?_
      rcases complete with derived | ⟨front, closer, member, rfl, derived⟩
      · exact .inl (.seq (.kind token.kind) derived)
      · exact .inr ⟨token.kind :: front, closer, member, rfl,
          .seq (.kind token.kind) derived⟩
    · intro value back last derived read starts
      rw [List.append_assoc]
      exact ends value (token :: back) last
        (.seq (.kind token.kind) derived) read rfl

/-- A refusal is justified by the words that start with the expected kinds. -/
theorem parsesAt_unexpected
    {expected : List Token.Kind}
    (nonempty : expected ≠ [])
    (absent : token.kind ∉ expected)
    (acceptable :
      ∀ kind ∈ expected, form.Opens kind ∨ (kind ∈ closers ∧ form.Derives [])) :
    (unexpected expected : Parser α).ParsesAt contract token form
      closers reads := by
  intro goal post taken leads ends
  refine ⟨nonempty, absent, fun kind member => ?_⟩
  rcases acceptable kind member with ⟨word, derived⟩ | ⟨closing, nothing⟩
  · have longer := leads _ (.inl derived)
    rw [List.append_cons] at longer
    exact longer.of_append
  · exact leads _ (.inr ⟨[], kind, closing, rfl, nothing⟩)

/-- Whether a token of a kind can be moved over whatever its spelling is. -/
def isFixed : Token.Kind -> Bool
  | .endOfFile | .intLiteral | .floatLiteral => false
  | _ => true

/-- A kind of token that can be moved over whatever its spelling is. -/
def Fixed (kind : Token.Kind) : Prop :=
  isFixed kind = true

namespace Fixed

variable {kind : Token.Kind}

theorem inside (fixed : Fixed kind) : kind ≠ .endOfFile := by
  rintro rfl
  cases fixed

theorem readable
    (fixed : Fixed kind)
    (same : token.kind = kind) :
    token.Readable := by
  subst same
  constructor
  · intro int
    rw [int] at fixed
    cases fixed
  · intro float
    rw [float] at fixed
    cases fixed

end Fixed

theorem Fixed.parsesAt_skip
    {kind : Token.Kind}
    {next : Unit -> Parser α}
    (fixed : Fixed kind)
    (same : token.kind = kind)
    (rest : ∀ after, (next ()).ParsesAt contract after form closers fun back =>
      reads (token :: back)) :
    (skip.bind next).ParsesAt contract token (.seq (.kind kind) form)
      closers reads :=
  Parser.parsesAt_skip same fixed.inside (fixed.readable same) rest

/--
A token of an expected kind is taken, and what follows may use its spelling.
-/
theorem parsesAt_expect
    {next : String -> Parser α}
    (kind : Token.Kind)
    (fixed : Fixed kind)
    (rest : token.kind = kind -> ∀ after, (next token.spelling).ParsesAt
      contract after form closers fun back => reads (token :: back)) :
    ((expect kind).bind next).ParsesAt contract token (.seq (.kind kind) form)
      closers reads := by
  rw [expect_bind]
  refine parsesAt_current ?_
  split
  · next same => exact fixed.parsesAt_skip same fun after => rest same after
  · next different =>
      refine parsesAt_unexpected (by simp) (by simpa using different) ?_
      intro expected member
      cases List.mem_singleton.1 member
      exact .inl (Form.Opens.single kind).seq

theorem parsesAt_pass
    {next : Unit -> Parser α}
    (kind : Token.Kind)
    (fixed : Fixed kind)
    (rest : token.kind = kind -> ∀ after, (next ()).ParsesAt contract after form
      closers fun back => reads (token :: back)) :
    ((pass kind).bind next).ParsesAt contract token (.seq (.kind kind) form)
      closers reads := by
  rw [pass_bind]
  exact parsesAt_expect kind fixed rest

end Primitives
end Parser
end MatrixLang
