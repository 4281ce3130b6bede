import MatrixLang.Proofs.Acceptance
import MatrixLang.Proofs.Printing.Declaration

/-!
# Printing and parsing back

A module that was parsed from a text prints to a text from which it is parsed
again, but for its positions.  What was parsed is read from the tokens of the
first text, so its names and literals are spelled as the scanner spells them;
the printed text is scanned to tokens from which the same trees are read.
-/

namespace MatrixLang

/--
The tokens in front of another one can be moved over from before the first of
them.
-/
theorem Spot.moves_before
    {source : TokenStream}
    {tokens rest : List Token}
    {last : Token}
    (known : source.tokens = tokens ++ last :: rest)
    (proper : Proper tokens)
    (valid : last.kind ≠ .invalid) :
    ∃ start stop,
      (Spot.before source).next? = some start ∧ start.Moves tokens stop ∧
      stop.current = last := by
  cases tokens with
  | nil =>
      obtain ⟨pull, pulled, rfl, -⟩ := TokenStream.next?_of_tokens_cons known
      refine ⟨⟨pull.token, pull.rest⟩, _, ?_, .stay _, rfl⟩
      rw [Spot.next?, Spot.before, pulled]
      exact if_neg valid
  | cons token tokens =>
      obtain ⟨tokenProper, tokensProper⟩ := List.forall_mem_cons.1 proper
      obtain ⟨pull, pulled, rfl, behind⟩ :=
        TokenStream.next?_of_tokens_cons known
      obtain ⟨remaining, moves, -⟩ := Spot.moves_of_tokens behind
        (fun other isOne => (proper other isOne).1)
        (List.forall_mem_append.2
          ⟨fun other isOne => (tokensProper other isOne).2,
          List.forall_mem_singleton.2 valid⟩)
      refine ⟨⟨pull.token, pull.rest⟩, ⟨last, remaining⟩, ?_, moves, rfl⟩
      rw [Spot.next?, Spot.before, pulled]
      exact if_neg tokenProper.2

/--
The tokens of a text that is passed are those it yields and the end of the file.
-/
theorem Scanner.Passes.tokens_ofText
    {text : String}
    {yielded : List Token}
    (passes : Passes text.toList [] .start yielded) :
    (TokenStream.ofText text).tokens =
      yielded ++ [.endOfFile (Position.start.afterAll text.toList)] := by
  have all : tokens ⟨text.toList ++ [], .start, false⟩ =
      yielded ++ [.endOfFile (Position.start.afterAll text.toList)] := passes
  rwa [List.append_nil] at all

/--
The tokens from which a text is parsed are spelled as the scanner spells them.
-/
theorem spelled_of_moves
    {text : String}
    {start stop : Spot}
    {tokens : List Token}
    (found : (Spot.before (.ofText text)).next? = some start)
    (moves : start.Moves tokens stop) :
    ∀ token ∈ tokens, token.Spelled := by
  intro token isOne
  apply Scanner.spelled_tokens (.ofText text)
  rcases Spot.Moves.tokens_eq found moves with more | ⟨all, -, -⟩
  · have listed : (Scanner.ofText text).tokens = tokens ++ stop.tokens := more
    rw [listed]
    exact List.mem_append_left _ isOne
  · have listed : (Scanner.ofText text).tokens = tokens := all
    rwa [listed]

/--
The text of a parsed module is parsed to the same module, but for positions.
-/
theorem parseText_text
    (source : String)
    (module : Module)
    (parsed : parseText source = .ok module) :
    ∃ other,
      parseText module.text = .ok other ∧ other.erase = module.erase := by
  obtain ⟨start, tokens, found, moves, -, -, reads, -⟩ :=
    parseModule_of_ok parsed
  obtain ⟨printed, passes, proper, list, all, same⟩ :=
    reads.prints (spelled_of_moves found moves) [] .start
  obtain ⟨first, last, firstFound, printedMoves, ended⟩ :=
    Spot.moves_before passes.tokens_ofText proper (by simp [Token.endOfFile])
  have endKind : last.current.kind = .endOfFile := by
    rw [ended]
    rfl
  have readBack :
      (Module.ofDeclarations (startOf (printed ++ [last.current])) list).Reads
        printed last.current :=
    ⟨list, all, rfl⟩
  exact ⟨_, (parseModule_of_reads firstFound printedMoves endKind readBack).1,
    same _⟩

/--
A conditional in the first branch of another one, to which the `else` belongs.
-/
def innerElse : Module :=
  ⟨[⟨.void, "f", [],
    [.ifThen ⟨2, 1⟩ (.reference ⟨2, 5⟩ "a")
      (.ifElse ⟨2, 8⟩ (.reference ⟨2, 12⟩ "b") (.block ⟨2, 15⟩ [])
        (.returnValue ⟨2, 23⟩ (.unary ⟨2, 30⟩ .negate (.int ⟨2, 31⟩ 2))))],
    ⟨1, 1⟩⟩], [], ⟨1, 1⟩⟩

/-- The `else` stays with the inner conditional when it is printed. -/
theorem parseText_text_innerElse :
    parseText
        "function void f()\x7b\nif (a) if (b) \x7b\x7d else return -2;\x7d" =
        .ok innerElse ∧
      ∃ other, parseText innerElse.text = .ok other ∧
        other.erase = innerElse.erase := by
  have parsed :
      parseText
          "function void f()\x7b\nif (a) if (b) \x7b\x7d else return -2;\x7d" =
        .ok innerElse := by
    rfl
  exact ⟨parsed, parseText_text _ _ parsed⟩

end MatrixLang
