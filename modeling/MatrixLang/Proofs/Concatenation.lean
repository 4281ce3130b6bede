import MatrixLang.Proofs.Declaring
import MatrixLang.Proofs.Reuse

/-!
# Modules one behind the other

The tokens of a module in front of other tokens are parsed as that module, and
what follows is parsed as if it stood alone.  No declaration depends on the
token behind its closing brace, as long as that token could be scanned
(`parseModule_append_of_valid`); if it could not, both parsers fail at it
(`parseModule_append_of_invalid`).
-/

namespace MatrixLang

namespace Module

/--
The declarations of one module in front of those of another, at the position of
the first.
-/
def append (first second : Module) : Module where
  functions := first.functions ++ second.functions
  records := first.records ++ second.records
  position := first.position

instance : Append Module :=
  ⟨append⟩

/-- Declarations are sorted part by part. -/
theorem ofDeclarations_append
    (position other : Position)
    (front back : List Declaration) :
    ofDeclarations position (front ++ back) =
      ofDeclarations position front ++ ofDeclarations other back := by
  change _ = append _ _
  simp [ofDeclarations, append, List.filterMap_append]

theorem append_empty
    (module : Module)
    (position : Position) :
    module ++ ofDeclarations position [] = module := by
  change append _ _ = _
  simp [ofDeclarations, append]

end Module

/-! ## Lists of tokens -/

theorem parseModule_listed_cons
    {token : Token}
    (valid : token.kind ≠ .invalid)
    (rest : List Token) :
    parseModule (.listed (token :: rest)) =
      Grammar.module.parse ⟨.listed rest, token, []⟩ := by
  have opened : (Cursor.before (.listed (token :: rest))).advance =
      ⟨.ok (), ⟨.listed rest, token, []⟩⟩ :=
    if_neg valid
  rw [parseModule, Parser.parse_advance, opened]
  rfl

theorem parseModule_listed_invalid
    {token : Token}
    (invalid : token.kind = .invalid)
    (rest : List Token) :
    (parseModule (.listed (token :: rest))).result =
      .error (.ofCause (.lexical token)) := by
  have failed : (Cursor.before (.listed (token :: rest))).advance =
      ⟨.error (.ofCause (.lexical token)),
        ⟨.listed rest, .endOfFile .start, []⟩⟩ :=
    if_pos invalid
  rw [parseModule, Parser.parse_advance, failed]
  rfl

section

variable {first : Token} {tokens : List Token} {module : Module}
  (inside : ∀ token ∈ first :: tokens, token.kind ≠ .endOfFile)
  (parsed : (parseModule (.listed (first :: tokens))).result = .ok module)

include inside parsed

/-- A module without an end of the file is read from all of its tokens. -/
theorem reads_of_parseModule :
    (∀ token ∈ first :: tokens, token.kind ≠ .invalid) ∧
      ∃ list, Declaration.AllRead (first :: tokens) list ∧
        module = .ofDeclarations first.position list := by
  obtain ⟨⟨derived, -⟩, -, -, list, all, same⟩ :=
    parseModule_listed_whole inside parsed
  exact ⟨fun token isOne =>
    (derived.proper rfl _ (List.mem_map_of_mem isOne)).2, list, all, same⟩

/--
In front of a token that could be scanned a module is parsed as it stands.
-/
theorem parseModule_append_of_valid
    {next : Token}
    (valid : next.kind ≠ .invalid)
    (rest : List Token) :
    (parseModule (.listed (first :: tokens ++ next :: rest))).result =
      (parseModule (.listed (next :: rest))).result.map (module ++ ·) := by
  obtain ⟨scanned, list, all, rfl⟩ := reads_of_parseModule inside parsed
  have known : (TokenStream.listed (tokens ++ next :: rest)).tokens =
      tokens ++ next :: rest := rfl
  obtain ⟨behind, moves, remaining⟩ := Spot.moves_of_tokens known inside
    (List.forall_mem_append.2
      ⟨fun token isOne => scanned token (List.mem_cons_of_mem _ isOne),
      List.forall_mem_singleton.2 valid⟩)
  -- The declarations of the front are parsed in rounds up to the next token.
  have start : Cursor.spot ⟨.listed (tokens ++ next :: rest), first, []⟩ =
      ⟨first, .listed (tokens ++ next :: rest)⟩ := rfl
  rw [← start] at moves
  obtain ⟨log, rounds⟩ := all.declares moves
  have sameEnd :
      (Grammar.declarations.parse (Spot.cursor ⟨next, behind⟩ log)).result =
        (Grammar.declarations.parse ⟨.listed rest, next, []⟩).result :=
    Parser.result_congr rfl remaining.symm
  rw [List.cons_append,
    parseModule_listed_cons (scanned first (List.mem_cons_self ..)),
    parseModule_listed_cons valid, Grammar.parse_module, Grammar.parse_module,
    rounds.parse_eq]
  generalize Grammar.declarations.parse (Spot.cursor ⟨next, behind⟩ log) =
    reply at sameEnd
  generalize Grammar.declarations.parse ⟨.listed rest, next, []⟩ =
    alone at sameEnd
  rcases reply with ⟨diagnostic | more, after⟩
  · rcases alone with ⟨result, last⟩
    cases sameEnd
    rfl
  · rcases alone with ⟨result, last⟩
    cases sameEnd
    exact congrArg Except.ok
      (Module.ofDeclarations_append first.position next.position list more)

/--
A module without an end of the file is finished only when its tokens have run
out.
-/
theorem runs_of_parseModule :
    ∃ count reply, tokens.length < count ∧
      Grammar.module.Runs ⟨.listed tokens, first, []⟩ count reply := by
  have scanned := (reads_of_parseModule inside parsed).1
  obtain ⟨-, -, ended, -⟩ := parseModule_listed_whole inside parsed
  rw [parseModule_listed_cons (scanned first (List.mem_cons_self ..))]
    at parsed ended
  obtain ⟨count, runs⟩ := Grammar.module.runs_parse ⟨.listed tokens, first, []⟩
  refine ⟨count, _, ?_, runs⟩
  apply Nat.lt_of_not_le
  intro few
  have isAt :
      Cursor.IsAt (first :: tokens) 0 ⟨.listed tokens, first, []⟩ := ⟨rfl, rfl⟩
  have last := (runs.endsAt isAt).current module parsed
  have within : 0 + count < (first :: tokens).length := by
    rw [List.length_cons]
    omega
  rw [tokenAt, List.getElem?_eq_getElem within, ended] at last
  apply inside _ (List.getElem_mem within)
  exact congrArg Token.kind last.symm

/-- In front of a token that could not be scanned a module is not parsed. -/
theorem parseModule_append_of_invalid
    {next : Token}
    (invalid : next.kind = .invalid)
    (rest : List Token) :
    (parseModule (.listed (first :: tokens ++ next :: rest))).result =
      .error (.ofCause (.lexical next)) := by
  have scanned := (reads_of_parseModule inside parsed).1
  obtain ⟨count, reply, further, runs⟩ := runs_of_parseModule inside parsed
  rw [List.cons_append,
    parseModule_listed_cons (scanned first (List.mem_cons_self ..))]
  refine runs.blocked ⟨rfl, fun index within => ?_⟩ further ?_ invalid
  · exact List.getElem?_append_left within
  · change (tokens ++ next :: rest)[tokens.length]? = some next
    rw [List.getElem?_append_right (Nat.le_refl _), Nat.sub_self]
    rfl

end

/--
A module that is parsed from tokens without an end of the file stands in front
of whatever is parsed from further tokens alone, and where these fail to be
parsed the whole fails in the same way.
-/
theorem parseModule_append
    {front : List Token}
    {module : Module}
    (nonempty : front ≠ [])
    (inside : ∀ token ∈ front, token.kind ≠ .endOfFile)
    (parsed : (parseModule (.listed front)).result = .ok module)
    (back : List Token) :
    (parseModule (.listed (front ++ back))).result =
      (parseModule (.listed back)).result.map (module ++ ·) := by
  obtain ⟨first, tokens, rfl⟩ := List.exists_cons_of_ne_nil nonempty
  cases back with
  | nil =>
      have empty : (parseModule (.listed [])).result =
          .ok (.ofDeclarations .start []) := rfl
      rw [List.append_nil, parsed, empty]
      exact congrArg Except.ok (Module.append_empty module .start).symm
  | cons next rest =>
      by_cases invalid : next.kind = .invalid
      · rw [parseModule_append_of_invalid inside parsed invalid,
          parseModule_listed_invalid invalid]
        rfl
      · exact parseModule_append_of_valid inside parsed invalid rest

/-- The tokens of `function void f() {}`. -/
def emptyFunction : List Token :=
  [⟨.functionWord, "function", ⟨1, 1⟩⟩, ⟨.voidWord, "void", ⟨1, 10⟩⟩,
    ⟨.identifier, "f", ⟨1, 15⟩⟩, ⟨.openParen, "(", ⟨1, 16⟩⟩,
    ⟨.closeParen, ")", ⟨1, 17⟩⟩, ⟨.openCurly, "\x7b", ⟨1, 19⟩⟩,
    ⟨.closeCurly, "\x7d", ⟨1, 20⟩⟩]

/-- The tokens of `record r { val int x; }` on the second line of a text. -/
def singleRecord : List Token :=
  [⟨.recordWord, "record", ⟨2, 1⟩⟩, ⟨.identifier, "r", ⟨2, 8⟩⟩,
    ⟨.openCurly, "\x7b", ⟨2, 10⟩⟩, ⟨.valWord, "val", ⟨2, 12⟩⟩,
    ⟨.intWord, "int", ⟨2, 16⟩⟩, ⟨.identifier, "x", ⟨2, 20⟩⟩,
    ⟨.semicolon, ";", ⟨2, 21⟩⟩, ⟨.closeCurly, "\x7d", ⟨2, 23⟩⟩]

/--
A record behind a function is parsed as a record of the same module, and a token
that could not be scanned is refused there.
-/
theorem parseModule_append_emptyFunction :
    emptyFunction ≠ [] ∧ (∀ token ∈ emptyFunction, token.kind ≠ .endOfFile) ∧
      ∃ module other,
        (parseModule (.listed emptyFunction)).result = .ok module ∧
        (parseModule (.listed singleRecord)).result = .ok other ∧
        (parseModule (.listed (emptyFunction ++ singleRecord))).result =
          .ok (module ++ other) ∧
        (parseModule
            (.listed (emptyFunction ++ [⟨.invalid, "$", ⟨2, 1⟩⟩]))).result =
          .error (.ofCause (.lexical ⟨.invalid, "$", ⟨2, 1⟩⟩)) := by
  have nonempty : emptyFunction ≠ [] := List.cons_ne_nil _ _
  have inside : ∀ token ∈ emptyFunction, token.kind ≠ .endOfFile := by decide
  refine ⟨nonempty, inside, _, _, rfl, rfl, ?_, ?_⟩
  · rw [parseModule_append nonempty inside rfl]
    rfl
  · rw [parseModule_append nonempty inside rfl]
    rfl

end MatrixLang
