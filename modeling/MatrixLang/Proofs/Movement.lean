import MatrixLang.Parsing

/-!
# Movement over tokens

A spot is what a cursor has in front of it, without the events noted so far.
`Spot.Moves` says over which tokens the lookahead moves from one spot to
another.  The tokens of a stream, whether they are listed or still to be
scanned, decide which movements there are: `Spot.moves_of_tokens` finds one for
every list of readable tokens, and `Spot.Moves.tokens_eq` says that every
movement passes over the tokens that come first.
-/

namespace MatrixLang

namespace TokenStream

/-- The tokens that a stream still yields. -/
def tokens : TokenStream -> List Token
  | .listed tokens => tokens
  | .scanned scanner => scanner.tokens

/-- The next token of a stream comes before those of the stream behind it. -/
theorem tokens_of_next?
    {stream : TokenStream}
    {pull : Pull}
    (found : stream.next? = some pull) :
    stream.tokens = pull.token :: pull.rest.tokens := by
  cases stream with
  | listed tokens =>
      cases tokens with
      | nil => cases found
      | cons token rest =>
          cases found
          rfl
  | scanned scanner =>
      obtain ⟨scan, scanFound, rfl⟩ := Option.map_eq_some_iff.1 found
      change scanner.scans.map Scan.token =
        scan.token :: scan.rest.scans.map Scan.token
      rw [Scanner.scans_of_next? scanFound, List.map_cons]

/-- A stream without a next token yields nothing. -/
theorem tokens_of_next?_none
    {stream : TokenStream}
    (ended : stream.next? = none) :
    stream.tokens = [] := by
  cases stream with
  | listed tokens =>
      cases tokens with
      | nil => rfl
      | cons token rest => cases ended
  | scanned scanner =>
      have scannerEnded : scanner.next? = none := Option.map_eq_none_iff.1 ended
      change scanner.scans.map Scan.token = []
      rw [Scanner.scans_of_next?_none scannerEnded, List.map_nil]

/-- A stream whose tokens are known pulls the first of them. -/
theorem next?_of_tokens_cons
    {stream : TokenStream}
    {token : Token}
    {rest : List Token}
    (known : stream.tokens = token :: rest) :
    ∃ pull, stream.next? = some pull ∧ pull.token = token ∧
      pull.rest.tokens = rest := by
  cases found : stream.next? with
  | none =>
      rw [tokens_of_next?_none found] at known
      cases known
  | some pull =>
      rw [tokens_of_next? found] at known
      cases known
      exact ⟨pull, rfl, rfl, rfl⟩

/-- A stream that yields nothing has no next token. -/
theorem next?_of_tokens_nil
    {stream : TokenStream}
    (known : stream.tokens = []) :
    stream.next? = none := by
  cases found : stream.next? with
  | none => rfl
  | some pull =>
      rw [tokens_of_next? found] at known
      cases known

end TokenStream

/-- A lookahead token with the stream behind it. -/
structure Spot where
  /-- The lookahead token. -/
  current : Token
  /-- The tokens behind the lookahead token. -/
  source : TokenStream

/-- What a cursor has in front of it. -/
def Cursor.spot (cursor : Cursor) : Spot :=
  ⟨cursor.current, cursor.source⟩

namespace Spot

/-- The spot before the first token of a stream. -/
def before (source : TokenStream) : Spot :=
  ⟨.endOfFile .start, source⟩

/-- The cursor at a spot with the events noted so far. -/
def cursor (spot : Spot) (log : List Event) : Cursor :=
  ⟨spot.source, spot.current, log⟩

@[simp]
theorem spot_cursor
    (spot : Spot)
    (log : List Event) :
    (spot.cursor log).spot = spot :=
  rfl

@[simp]
theorem current_cursor
    (spot : Spot)
    (log : List Event) :
    (spot.cursor log).current = spot.current :=
  rfl

/--
The spot behind the lookahead token; there is none when the scanner failed.
-/
def next? (spot : Spot) : Option Spot :=
  match spot.source.next? with
  | none => some ⟨.endOfFile spot.current.position, spot.source⟩
  | some pull =>
      if pull.token.kind = .invalid then none else some ⟨pull.token, pull.rest⟩

/-- A cursor advances to the next spot. -/
theorem advance_of_next?
    {cursor : Cursor}
    {next : Spot}
    (found : cursor.spot.next? = some next) :
    ∃ log, cursor.advance = ⟨.ok (), next.cursor log⟩ := by
  unfold next? at found
  unfold Cursor.advance
  cases pulled : cursor.source.next? with
  | none =>
      rw [Cursor.spot, pulled] at found
      cases found
      exact ⟨cursor.log, rfl⟩
  | some pull =>
      rw [Cursor.spot, pulled] at found
      dsimp only at found
      split at found
      · cases found
      · next valid =>
          cases found
          exact ⟨cursor.log ++ pull.events, if_neg valid⟩

/-- A cursor without a next spot fails at a token that could not be scanned. -/
theorem advance_of_next?_none
    {cursor : Cursor}
    (failed : cursor.spot.next? = none) :
    ∃ token rest log,
      token.kind = .invalid ∧
        cursor.source.tokens = token :: rest.tokens ∧
          cursor.advance =
            ⟨.error (.ofCause (.lexical token)),
              ⟨rest, cursor.current, log⟩⟩ := by
  unfold next? at failed
  unfold Cursor.advance
  cases pulled : cursor.source.next? with
  | none =>
      rw [Cursor.spot, pulled] at failed
      cases failed
  | some pull =>
      rw [Cursor.spot, pulled] at failed
      dsimp only at failed
      split at failed
      · next invalid =>
          exact ⟨pull.token, pull.rest, cursor.log ++ pull.events, invalid,
            TokenStream.tokens_of_next? pulled, if_pos invalid⟩
      · cases failed

/-- Moving the lookahead over some tokens, none of them the end of the file. -/
inductive Moves : Spot -> List Token -> Spot -> Prop
  | stay (spot : Spot) : Moves spot [] spot
  | step
      {spot next after : Spot}
      {tokens : List Token}
      (inside : spot.current.kind ≠ .endOfFile)
      (found : spot.next? = some next)
      (further : Moves next tokens after) :
      Moves spot (spot.current :: tokens) after

namespace Moves

/-- A movement goes on with another one. -/
theorem trans
    {start middle after : Spot}
    {first second : List Token}
    (front : start.Moves first middle)
    (back : middle.Moves second after) :
    start.Moves (first ++ second) after := by
  induction front with
  | stay spot => exact back
  | step inside found further inductionHypothesis =>
      exact .step inside found (inductionHypothesis back)

/-- A movement over a sequence passes through a spot between its parts. -/
theorem split
    {start after : Spot}
    {first second : List Token}
    (moves : start.Moves (first ++ second) after) :
    ∃ middle, start.Moves first middle ∧ middle.Moves second after := by
  induction first generalizing start with
  | nil => exact ⟨start, .stay start, moves⟩
  | cons token rest inductionHypothesis =>
      cases moves with
      | step inside found further =>
          obtain ⟨middle, front, back⟩ := inductionHypothesis further
          exact ⟨middle, .step inside found front, back⟩

/-- No movement passes over the end of the file. -/
theorem inside
    {start after : Spot}
    {tokens : List Token}
    (moves : start.Moves tokens after) :
    ∀ token ∈ tokens, token.kind ≠ .endOfFile := by
  induction moves with
  | stay spot => exact List.forall_mem_nil _
  | step inside _ _ inductionHypothesis =>
      exact List.forall_mem_cons.2 ⟨inside, inductionHypothesis⟩

/-- A movement starts at the first token it passes, or else where it ends. -/
theorem head?_eq
    {start after : Spot}
    {tokens : List Token}
    (moves : start.Moves tokens after) :
    (tokens ++ [after.current]).head? = some start.current := by
  cases moves with
  | stay spot => rfl
  | step inside found further => rfl

end Moves

/-- The tokens of a spot, its lookahead included. -/
def tokens (spot : Spot) : List Token :=
  spot.current :: spot.source.tokens

/--
One step leads to the next token, or to the end of the file behind the last one.
-/
theorem next?_tokens
    {spot next : Spot}
    (found : spot.next? = some next) :
    (next.current.kind ≠ .invalid ∧ spot.source.tokens = next.tokens) ∨
      (spot.source.tokens = [] ∧ next.source.tokens = [] ∧
        next.current = .endOfFile spot.current.position) := by
  unfold next? at found
  split at found
  · next ended =>
      cases found
      have empty := TokenStream.tokens_of_next?_none ended
      exact .inr ⟨empty, empty, rfl⟩
  · next pull pulled =>
      split at found
      · cases found
      · next valid =>
          cases found
          exact .inl ⟨valid, TokenStream.tokens_of_next? pulled⟩

/-- The end of the file behind the last token of a list. -/
def endBehind (current : Token) (tokens : List Token) : Token :=
  .endOfFile (tokens.getLastD current).position

theorem endBehind_cons
    (current token : Token)
    (tokens : List Token) :
    endBehind current (token :: tokens) = endBehind token tokens := by
  rw [endBehind, endBehind, List.getLastD_cons]

/--
A movement passes over the tokens that come first, or else over all of them.
-/
theorem Moves.tokens_eq
    {before start stop : Spot}
    {tokens : List Token}
    (found : before.next? = some start)
    (moves : start.Moves tokens stop) :
    before.source.tokens = tokens ++ stop.tokens ∨
      (before.source.tokens = tokens ∧ stop.source.tokens = [] ∧
        stop.current = endBehind before.current tokens) := by
  induction moves generalizing before with
  | stay spot =>
      rcases next?_tokens found with ⟨-, known⟩ | ended
      · exact .inl known
      · exact .inr ended
  | @step spot next stop tokens inside nextFound further inductionHypothesis =>
      rcases next?_tokens found with ⟨-, known⟩ | ⟨-, -, ended⟩
      · rw [known, Spot.tokens, endBehind_cons]
        rcases inductionHypothesis nextFound with more | ⟨all, empty, last⟩
        · rw [more]
          exact .inl rfl
        · rw [all]
          exact .inr ⟨rfl, empty, last⟩
      · rw [ended] at inside
        exact absurd rfl inside

/-- Readable tokens in front of another one can be moved over. -/
theorem moves_of_tokens
    {current lookahead : Token}
    {source : TokenStream}
    {tokens rest : List Token}
    (known : source.tokens = tokens ++ lookahead :: rest)
    (inside : ∀ token ∈ current :: tokens, token.kind ≠ .endOfFile)
    (valid : ∀ token ∈ tokens ++ [lookahead], token.kind ≠ .invalid) :
    ∃ behind : TokenStream,
      (Spot.mk current source).Moves (current :: tokens) ⟨lookahead, behind⟩ ∧
        behind.tokens = rest := by
  induction tokens generalizing current source with
  | nil =>
      obtain ⟨pull, pulled, rfl, behind⟩ :=
        TokenStream.next?_of_tokens_cons known
      have found :
          (Spot.mk current source).next? = some ⟨pull.token, pull.rest⟩ := by
        rw [next?, pulled]
        exact if_neg (valid pull.token (by simp))
      exact ⟨pull.rest, .step (inside current (by simp)) found (.stay _),
        behind⟩
  | cons token more inductionHypothesis =>
      obtain ⟨pull, pulled, rfl, behind⟩ :=
        TokenStream.next?_of_tokens_cons known
      have found :
          (Spot.mk current source).next? = some ⟨pull.token, pull.rest⟩ := by
        rw [next?, pulled]
        exact if_neg (valid pull.token (by simp))
      obtain ⟨last, moves, remaining⟩ := inductionHypothesis behind
        (fun token member => inside token (List.mem_cons_of_mem _ member))
        (fun token member => valid token (List.mem_cons_of_mem _ member))
      exact ⟨last, .step (inside current (by simp)) found moves, remaining⟩

/--
Readable tokens at the end of a stream can be moved over, up to the end of the
file.
-/
theorem moves_to_end
    {current : Token}
    {source : TokenStream}
    {tokens : List Token}
    (known : source.tokens = tokens)
    (inside : ∀ token ∈ current :: tokens, token.kind ≠ .endOfFile)
    (valid : ∀ token ∈ tokens, token.kind ≠ .invalid) :
    ∃ behind : TokenStream,
      (Spot.mk current source).Moves (current :: tokens)
          ⟨endBehind current tokens, behind⟩ ∧
        behind.tokens = [] := by
  induction tokens generalizing current source with
  | nil =>
      have ended := TokenStream.next?_of_tokens_nil known
      have found : (Spot.mk current source).next? =
          some ⟨.endOfFile current.position, source⟩ := by
        rw [next?, ended]
      exact ⟨source, .step (inside current (by simp)) found (.stay _), known⟩
  | cons token more inductionHypothesis =>
      obtain ⟨pull, pulled, rfl, behind⟩ :=
        TokenStream.next?_of_tokens_cons known
      have found :
          (Spot.mk current source).next? = some ⟨pull.token, pull.rest⟩ := by
        rw [next?, pulled]
        exact if_neg (valid pull.token (by simp))
      obtain ⟨last, moves, remaining⟩ := inductionHypothesis behind
        (fun token member => inside token (List.mem_cons_of_mem _ member))
        (fun token member => valid token (List.mem_cons_of_mem _ member))
      refine ⟨last, ?_, remaining⟩
      rw [endBehind_cons]
      exact .step (inside current (by simp)) found moves

end Spot

/-- The end of the file behind a list of tokens. -/
def endOf (tokens : List Token) : Token :=
  Spot.endBehind (.endOfFile .start) tokens

end MatrixLang
