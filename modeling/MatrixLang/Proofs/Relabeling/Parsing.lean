import MatrixLang.Proofs.Relabeling.Grammar
import MatrixLang.Proofs.Runs

/-!
# Parsing follows every relabeling

Two cursors mirror each other when the tokens of the second are those of the
first, relabeled.  A parser that mirrors another one then has the relabeled
reply, step by step (`Parser.Runs.mirrors`).  Since the grammar mirrors itself,
only the kinds of tokens and the spellings of numerals and truth values steer
it.
-/

namespace MatrixLang

/-- A cursor over the relabeled tokens of another one. -/
structure Cursor.Mirrors
    (labels : Relabeling)
    (cursor other : Cursor) : Prop where
  /-- The lookahead token is relabeled. -/
  current : other.current = cursor.current.relabel labels
  /-- The tokens behind it are relabeled. -/
  ahead : other.source.tokens = cursor.source.tokens.map (Token.relabel labels)

/-- The image of a value, or the relabeled failure. -/
def Relabeling.result
    {α β : Type}
    (labels : Relabeling)
    (image : α -> β) :
    Except Diagnostic α -> Except Diagnostic β
  | .ok value => .ok (image value)
  | .error diagnostic => .error (diagnostic.relabel labels)

/--
A reply with the image of the value of another one, or with its failure
relabeled.
-/
structure Reply.Mirrors
    {α β : Type}
    (labels : Relabeling)
    (image : α -> β)
    (reply : Reply α)
    (other : Reply β) : Prop where
  /-- The result is relabeled. -/
  result : other.result = labels.result image reply.result
  /-- The cursor is relabeled. -/
  cursor : reply.cursor.Mirrors labels other.cursor

/-- A failure refers to the position of its token, also when it is relabeled. -/
theorem Diagnostic.relabel_ofCause
    (labels : Relabeling)
    (cause : Cause) :
    (ofCause cause).relabel labels = ofCause (cause.relabel labels) := by
  cases cause <;> rfl

/-- A relabeled token is rejected for the same reason. -/
theorem Refusal.relabel_cause
    (labels : Relabeling)
    (token : Token)
    (refusal : Refusal) :
    (refusal.cause token).relabel labels =
      refusal.cause (token.relabel labels) := by
  cases refusal <;> rfl

namespace Cursor

variable {labels : Relabeling} {cursor other : Cursor}

/-- Moving over a token is moving over the relabeled token. -/
theorem Mirrors.advance
    (mirrors : cursor.Mirrors labels other) :
    cursor.advance.Mirrors labels id other.advance := by
  have ahead := mirrors.ahead
  cases known : cursor.source.tokens with
  | nil =>
      rw [known, List.map_nil] at ahead
      rw [advance_of_nil known, advance_of_nil ahead]
      refine ⟨rfl, ?_, ?_⟩
      · rw [mirrors.current]
        rfl
      · exact mirrors.ahead
  | cons token rest =>
      rw [known, List.map_cons] at ahead
      obtain ⟨behind, log, rfl, moved⟩ := advance_of_cons known
      obtain ⟨otherBehind, otherLog, further, otherMoved⟩ :=
        advance_of_cons ahead
      rw [moved, otherMoved, Token.kind_relabel]
      split
      · exact ⟨rfl, mirrors.current, further⟩
      · exact ⟨rfl, rfl, further⟩

theorem Mirrors.record
    (mirrors : cursor.Mirrors labels other)
    (event otherEvent : Event) :
    (cursor.record event).Mirrors labels (other.record otherEvent) :=
  ⟨mirrors.current, mirrors.ahead⟩

end Cursor

/--
A run of a parser is mirrored, step by step, by a run of a parser that mirrors
it.
-/
theorem Parser.Runs.mirrors
    {α β : Type}
    {labels : Relabeling}
    {image : α -> β}
    {parser : Parser α}
    {other : Parser β}
    {cursor otherCursor : Cursor}
    {count : Nat}
    {reply : Reply α}
    (runs : parser.Runs cursor count reply)
    (mirrors : parser.Mirrors labels image other)
    (cursors : cursor.Mirrors labels otherCursor) :
    ∃ otherReply, other.Runs otherCursor count otherReply ∧
      reply.Mirrors labels image otherReply := by
  induction runs generalizing β otherCursor with
  | finish value cursor =>
      cases mirrors
      exact ⟨_, .finish _ otherCursor, rfl, cursors⟩
  | inspect _ inductionHypothesis =>
      cases mirrors with
      | inspect nexts =>
          obtain ⟨otherReply, runs, same⟩ :=
            inductionHypothesis (nexts _) cursors
          rw [← cursors.current] at runs
          exact ⟨otherReply, .inspect runs, same⟩
  | advance moved _ inductionHypothesis =>
      cases mirrors with
      | advance next =>
          obtain ⟨result, behind⟩ := cursors.advance
          rcases otherMoved : otherCursor.advance with ⟨otherResult, after⟩
          rw [moved, otherMoved] at result behind
          cases result
          obtain ⟨otherReply, runs, same⟩ := inductionHypothesis next behind
          exact ⟨otherReply, .advance otherMoved runs, same⟩
  | stuck next failed =>
      cases mirrors with
      | advance next =>
          obtain ⟨result, behind⟩ := cursors.advance
          rcases otherFailed : otherCursor.advance with ⟨otherResult, after⟩
          rw [failed, otherFailed] at result behind
          cases result
          exact ⟨_, .stuck _ otherFailed, rfl, behind⟩
  | reject refusal cursor =>
      cases mirrors
      refine ⟨_, .reject refusal otherCursor, ?_, cursors⟩
      rw [cursors.current, ← Refusal.relabel_cause,
        ← Diagnostic.relabel_ofCause]
      rfl
  | note _ inductionHypothesis =>
      cases mirrors with
      | note next =>
          obtain ⟨otherReply, runs, same⟩ :=
            inductionHypothesis next (cursors.record _ _)
          exact ⟨otherReply, .note runs, same⟩
  | call _ _ firstHypothesis restHypothesis =>
      cases mirrors with
      | call nexts =>
          obtain ⟨⟨result, middle⟩, firstRuns, same, between⟩ :=
            firstHypothesis (Rule.mirrors_body labels _) cursors
          cases same
          obtain ⟨otherReply, restRuns, same⟩ :=
            restHypothesis (nexts _) between
          exact ⟨otherReply, .call firstRuns restRuns, same⟩
  | failedCall next _ inductionHypothesis =>
      cases mirrors with
      | call nexts =>
          obtain ⟨⟨result, after⟩, runs, same, behind⟩ :=
            inductionHypothesis (Rule.mirrors_body labels _) cursors
          cases same
          exact ⟨_, .failedCall _ runs, rfl, behind⟩

/--
Parsing relabeled tokens is relabeling what is parsed: a module is yielded with
its positions, names and strings relabeled, and a failure is the same one at the
relabeled token.
-/
theorem parseModule_relabel
    (labels : Relabeling)
    (source other : TokenStream)
    (nonempty : source.tokens ≠ [])
    (relabeled : other.tokens = source.tokens.map (Token.relabel labels)) :
    (parseModule other).result =
      labels.result (Module.relabel labels) (parseModule source).result := by
  cases known : source.tokens with
  | nil => exact absurd known nonempty
  | cons token rest =>
      rw [known, List.map_cons] at relabeled
      have more : (Cursor.before source).source.tokens = token :: rest := known
      have otherMore : (Cursor.before other).source.tokens =
          token.relabel labels :: rest.map (Token.relabel labels) := relabeled
      obtain ⟨behind, log, rfl, moved⟩ := Cursor.advance_of_cons more
      obtain ⟨otherBehind, otherLog, further, otherMoved⟩ :=
        Cursor.advance_of_cons otherMore
      rw [parseModule, parseModule, Parser.parse_advance, Parser.parse_advance,
        moved, otherMoved, Token.kind_relabel]
      split
      · rfl
      · have cursors : Cursor.Mirrors labels ⟨behind, token, log⟩
            ⟨otherBehind, token.relabel labels, otherLog⟩ :=
          ⟨rfl, further⟩
        obtain ⟨count, runs⟩ := Grammar.module.runs_parse ⟨behind, token, log⟩
        obtain ⟨otherReply, otherRuns, same⟩ :=
          runs.mirrors (Grammar.mirrors_module labels) cursors
        rw [← otherRuns.parse_eq] at same
        exact same.result

/-- The tokens of `function void f(){return "a";}`. -/
def returnString : List Token :=
  [⟨.functionWord, "function", ⟨1, 1⟩⟩, ⟨.voidWord, "void", ⟨1, 10⟩⟩,
    ⟨.identifier, "f", ⟨1, 15⟩⟩, ⟨.openParen, "(", ⟨1, 16⟩⟩,
    ⟨.closeParen, ")", ⟨1, 17⟩⟩, ⟨.openCurly, "\x7b", ⟨1, 18⟩⟩,
    ⟨.returnWord, "return", ⟨1, 19⟩⟩, ⟨.stringLiteral, "a", ⟨1, 26⟩⟩,
    ⟨.semicolon, ";", ⟨1, 29⟩⟩, ⟨.closeCurly, "\x7d", ⟨1, 30⟩⟩]

/-- A relabeling that takes all positions to one and all names to one. -/
def blurred : Relabeling :=
  ⟨fun _ => ⟨7, 7⟩, fun _ => "x", fun text => text ++ "!"⟩

/--
A function is parsed, and a function without its end is refused, however it is
relabeled.
-/
theorem parseModule_relabel_returnString :
    (returnString ≠ [] ∧
      (parseModule
          (.listed (returnString.map (Token.relabel blurred)))).result =
        .ok ⟨[⟨.void, "x", [],
          [.returnValue ⟨7, 7⟩ (.string ⟨7, 7⟩ "a!")], ⟨7, 7⟩⟩],
          [], ⟨7, 7⟩⟩) ∧
    (returnString.take 7 ≠ [] ∧
      (parseModule
        (.listed ((returnString.take 7).map (Token.relabel blurred)))).result =
        .error (.ofCause (.unexpected (.endOfFile ⟨7, 7⟩) Expected.atom))) := by
  refine ⟨⟨List.cons_ne_nil _ _, ?_⟩, ⟨List.cons_ne_nil _ _, ?_⟩⟩
  · rw [
      parseModule_relabel blurred (.listed returnString) _
        (List.cons_ne_nil _ _) rfl]
    rfl
  · rw [
      parseModule_relabel blurred (.listed (returnString.take 7)) _
        (List.cons_ne_nil _ _) rfl]
    rfl

end MatrixLang
