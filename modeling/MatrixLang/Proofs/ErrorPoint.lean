import MatrixLang.Proofs.Acceptance

/-!
# Where parsing fails

A failure is reported at the first token that no module goes on with: the tokens
before it are the front of an accepted list, and each kind that is reported as
expected leads on to one.
-/

namespace MatrixLang

/-- A token of a kind that can be read. -/
def Token.sample (kind : Token.Kind) : Token :=
  match kind with
  | .intLiteral => ⟨.intLiteral, "0", .start⟩
  | .floatLiteral => ⟨.floatLiteral, "0.0", .start⟩
  | kind => ⟨kind, "", .start⟩

namespace Token

theorem kind_sample (kind : Token.Kind) : (sample kind).kind = kind := by
  unfold sample
  split <;> rfl

theorem readable_sample (kind : Token.Kind) : (sample kind).Readable := by
  unfold sample
  split
  · exact ⟨fun _ => rfl, nofun⟩
  · exact ⟨nofun, fun _ => rfl⟩
  · next notInt notFloat =>
      exact ⟨fun int => absurd int notInt, fun float => absurd float notFloat⟩

end Token

theorem kinds_sample
    (word : List Token.Kind) :
    kinds (word.map Token.sample) = word := by
  have identity : Token.kind ∘ Token.sample = id := by
    funext kind
    exact Token.kind_sample kind
  rw [kinds, List.map_map, identity, List.map_id]

/-- Some tokens behind these make up an accepted list. -/
def Viable (tokens : List Token) : Prop :=
  ∃ rest module, (parseModule (.listed (tokens ++ rest))).result = .ok module

/--
Some tokens behind these, the first of a given kind, make up an accepted list.
-/
def Continues (tokens : List Token) (kind : Token.Kind) : Prop :=
  ∃ token rest module, token.kind = kind ∧
    (parseModule (.listed (tokens ++ token :: rest))).result = .ok module

theorem Continues.viable
    {tokens : List Token}
    {kind : Token.Kind}
    (continues : Continues tokens kind) :
    Viable tokens := by
  obtain ⟨token, rest, module, -, parsed⟩ := continues
  exact ⟨token :: rest, module, parsed⟩

/--
Readable tokens are accepted with samples of the kinds that complete their word.
-/
theorem parseModule_of_completion
    {tokens : List Token}
    {word : List Token.Kind}
    (readable : ∀ token ∈ tokens, token.Readable)
    (derived : Form.module.Derives (kinds tokens ++ word)) :
    ∃ module, (parseModule (.listed (tokens ++ word.map Token.sample))).result =
      .ok module := by
  apply parseModule_of_derives
  · rw [kinds_append, kinds_sample]
    exact derived
  · intro token member
    rcases List.mem_append.1 member with early | late
    · exact readable token early
    · obtain ⟨kind, -, rfl⟩ := List.mem_map.1 late
      exact Token.readable_sample kind

theorem viable_of_extends
    {tokens : List Token}
    (readable : ∀ token ∈ tokens, token.Readable)
    (further : Extends Form.module.Derives (kinds tokens)) :
    Viable tokens := by
  obtain ⟨word, derived⟩ := further
  exact ⟨_, parseModule_of_completion readable derived⟩

theorem continues_of_extends
    {tokens : List Token}
    {kind : Token.Kind}
    (readable : ∀ token ∈ tokens, token.Readable)
    (further : Extends Form.module.Derives (kinds tokens ++ [kind])) :
    Continues tokens kind := by
  obtain ⟨word, derived⟩ := further
  rw [List.append_assoc] at derived
  obtain ⟨module, parsed⟩ := parseModule_of_completion readable derived
  exact ⟨Token.sample kind, word.map Token.sample, module,
    Token.kind_sample kind, parsed⟩

/-- What is known of a failure behind some tokens. -/
def Cause.Earliest (front : List Token) (cause : Cause) : Prop :=
  Viable front ∧ ∀ found expected, cause = .unexpected found expected ->
    expected ≠ [] ∧ found.kind ∉ expected ∧
      ∀ kind ∈ expected, Continues front kind

/-- A justified refusal stands at the earliest token. -/
theorem Refusal.Justified.earliest
    {refusal : Refusal}
    {token : Token}
    {front : List Token}
    (justified : refusal.Justified Form.module.Derives token front)
    (readable : ∀ token ∈ front, token.Readable) :
    (refusal.cause token).Earliest front := by
  cases refusal with
  | unexpected expected =>
      obtain ⟨nonempty, absent, acceptable⟩ := justified
      have continues : ∀ kind ∈ expected, Continues front kind :=
        fun kind member =>
          continues_of_extends readable (acceptable kind member)
      constructor
      · obtain ⟨kind, member⟩ := List.exists_mem_of_ne_nil expected nonempty
        exact (continues kind member).viable
      · intro found others same
        cases same
        exact ⟨nonempty, absent, continues⟩
  | number =>
      refine ⟨viable_of_extends readable justified,
        fun found expected same => ?_⟩
      cases same

/--
A failure at a token of a list, or at the end behind it, with the tokens that
remain.
-/
def FailsAt
    (tokens remaining : List Token)
    (cause : Cause)
    (index : Nat) : Prop :=
  index ≤ tokens.length ∧ remaining = tokens.drop (index + 1) ∧
    cause.token = tokens[index]?.getD (endOf tokens) ∧
      cause.Earliest (tokens.take index)

theorem failsAt_token
    {front remaining : List Token}
    {token : Token}
    {cause : Cause}
    (same : cause.token = token)
    (earliest : cause.Earliest front) :
    FailsAt (front ++ token :: remaining) remaining cause front.length := by
  refine ⟨?_, ?_, ?_, ?_⟩
  · rw [List.length_append]
    exact Nat.le_add_right ..
  · rw [List.append_cons, List.drop_left' (by simp)]
  · rw [List.getElem?_append_right (Nat.le_refl _), Nat.sub_self]
    exact same
  · rw [List.take_left' rfl]
    exact earliest

theorem failsAt_end
    {tokens : List Token}
    {cause : Cause}
    (last : cause.token = endOf tokens)
    (earliest : cause.Earliest tokens) :
    FailsAt tokens [] cause tokens.length := by
  refine ⟨Nat.le_refl _, ?_, ?_, ?_⟩
  · rw [List.drop_of_length_le (Nat.le_succ _)]
  · rw [List.getElem?_eq_none (Nat.le_refl _)]
    exact last
  · rw [List.take_length]
    exact earliest

theorem token_cause
    (refusal : Refusal)
    (token : Token) :
    (refusal.cause token).token = token := by
  cases refusal <;> rfl

/--
A failure on the way from the first token stands at the last token that was
pulled.
-/
theorem Failure.failsAt
    {source : TokenStream}
    {start stop : Spot}
    {diagnostic : Diagnostic}
    (found : (Spot.before source).next? = some start)
    (failure : Failure Form.module.Derives [] start diagnostic stop) :
    ∃ index,
      FailsAt source.tokens stop.source.tokens diagnostic.cause index := by
  cases failure with
  | @refused _ tokens refusal moves readable justified =>
      have earliest := justified.earliest readable
      rcases Spot.Moves.tokens_eq found moves with more | ⟨all, empty, last⟩
      · refine ⟨tokens.length, ?_⟩
        rw [show source.tokens = tokens ++ stop.tokens from more, Spot.tokens]
        exact failsAt_token (token_cause refusal stop.current) earliest
      · refine ⟨tokens.length, ?_⟩
        rw [show source.tokens = tokens from all, empty]
        have atEnd := (token_cause refusal stop.current).trans last
        exact failsAt_end atEnd earliest
  | @unreadable last tokens token rest moves readable inside pulled invalid
      further =>
      have earliest :
          (Cause.lexical token).Earliest (tokens ++ [last.current]) := by
        refine ⟨viable_of_extends readable further,
          fun found expected same => ?_⟩
        cases same
      rcases Spot.Moves.tokens_eq found moves with more | ⟨-, empty, -⟩
      · refine ⟨(tokens ++ [last.current]).length, ?_⟩
        rw [show source.tokens = tokens ++ last.tokens from more, Spot.tokens,
          pulled, List.append_cons]
        exact failsAt_token rfl earliest
      · rw [empty] at pulled
        cases pulled

/--
A failure stands at the token that was pulled last, which may be the end of the
file behind the list.  The tokens before it are the front of an accepted list.
If the token is unexpected, then some other kinds are expected, and each of them
goes on to an accepted list.
-/
theorem parseModule_fails_earliest
    (tokens : List Token)
    (diagnostic : Diagnostic)
    (failed : (parseModule (.listed tokens)).result = .error diagnostic) :
    ∃ index ≤ tokens.length,
      (parseModule (.listed tokens)).cursor.source.tokens =
          tokens.drop (index + 1) ∧
        diagnostic.cause.token = tokens[index]?.getD (endOf tokens) ∧
          Viable (tokens.take index) ∧
            ∀ found expected, diagnostic.cause = .unexpected found expected ->
              expected ≠ [] ∧ found.kind ∉ expected ∧
                ∀ kind ∈ expected, Continues (tokens.take index) kind := by
  cases found : (Spot.before (.listed tokens)).next? with
  | none =>
      have first : (Cursor.before (.listed tokens)).spot.next? = none := found
      obtain ⟨token, rest, log, -, pulled, advanced⟩ :=
        Spot.advance_of_next?_none first
      have listed : tokens = token :: rest.tokens := pulled
      have reply : parseModule (.listed tokens) =
          ⟨.error (.ofCause (.lexical token)),
            ⟨rest, .endOfFile .start, log⟩⟩ := by
        rw [parseModule, Parser.parse_advance, advanced]
        rfl
      rw [reply] at failed ⊢
      cases failed
      have nothing : Viable [] := viable_of_extends (by simp) ⟨[], .none⟩
      refine ⟨0, Nat.zero_le _, ?_, ?_, nothing, fun found expected same => ?_⟩
      · rw [listed]
        rfl
      · rw [listed]
        rfl
      · cases same
  | some start =>
      obtain ⟨log, reply⟩ := parseModule_of_next? found
      have meets := meets_module (start.cursor log)
      rw [← reply, Reply.Meets, failed] at meets
      obtain ⟨index, within, remaining, token, viable, acceptable⟩ :=
        Failure.failsAt found meets
      exact ⟨index, within, remaining, token, viable, acceptable⟩

/-- Behind `function` a comma is refused, and every type goes on. -/
theorem parseModule_fails_earliest_comma :
    (parseModule (.listed
        [⟨.functionWord, "function", ⟨1, 1⟩⟩, ⟨.comma, ",", ⟨1, 10⟩⟩])).result =
        .error (.ofCause (.unexpected ⟨.comma, ",", ⟨1, 10⟩⟩ Expected.type)) ∧
      ∀ kind ∈ Expected.type,
        Continues [⟨.functionWord, "function", ⟨1, 1⟩⟩] kind := by
  refine ⟨rfl, ?_⟩
  obtain ⟨index, within, -, token, -, acceptable⟩ := parseModule_fails_earliest
    [⟨.functionWord, "function", ⟨1, 1⟩⟩, ⟨.comma, ",", ⟨1, 10⟩⟩] _ rfl
  have second : index = 1 := by
    match index, within, token with
    | 1, _, _ => rfl
  subst second
  exact (acceptable _ _ rfl).2.2

end MatrixLang
