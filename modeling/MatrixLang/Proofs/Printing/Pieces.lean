import MatrixLang.Proofs.Scanning.Lexemes
import MatrixLang.Proofs.Scanning.Spelling
import MatrixLang.Text.Basic

/-!
# Printing and scanning back

`Scanner.Passes` says which tokens scanning a piece of text yields when some
text stands behind it, and `Prints` that the tokens have a property wherever the
piece stands.  A printed text is followed piece by piece: each lemma `Prints.…`
takes one token or blank from its front and leaves a goal about what is printed
behind.
-/

namespace MatrixLang

namespace Scanner

/--
Scanning a text in front of another yields some tokens and leads to the other
text.
-/
def Passes
    (text rest : List Char)
    (start : Position)
    (yielded : List Token) : Prop :=
  tokens ⟨text ++ rest, start, false⟩ =
    yielded ++ tokens ⟨rest, start.afterAll text, false⟩

theorem passes_nil
    (rest : List Char)
    (start : Position) : Passes [] rest start [] :=
  rfl

/-- Scanning goes on behind a piece of text. -/
theorem Passes.append
    {text more rest : List Char}
    {start : Position}
    {first second : List Token}
    (front : Passes text (more ++ rest) start first)
    (back : Passes more rest (start.afterAll text) second) :
    Passes (text ++ more) rest start (first ++ second) := by
  rw [Passes] at front back ⊢
  rw [List.append_assoc, front, back, List.append_assoc,
    Position.afterAll_append]

/-- A lexeme that is not trivia is scanned as its token. -/
theorem passes_lexeme
    (lexeme : Token.Lexeme)
    {rest : List Char}
    (first : Token.Lexeme.first? (lexeme.text ++ rest) = some lexeme)
    (isToken : lexeme.isTrivia = false)
    (start : Position) :
    Passes lexeme.text rest start [lexeme.token start] := by
  have found := @next?_of_not_isTrivia
    ⟨lexeme.text ++ rest, start, false⟩ _ rfl first isToken
  have behind : skip ⟨lexeme.text ++ rest, start, false⟩ lexeme.text.length =
      ⟨rest, start.afterAll lexeme.text, false⟩ := by
    simp only [skip, List.drop_left, List.take_left]
  rw [behind] at found
  rw [Passes, tokens, scans_of_next? found]
  rfl

/-- Scanners that skip their trivia to the same place yield the same tokens. -/
theorem tokens_eq_of_skipTrivia
    {first second : Scanner}
    (state : first.finished = second.finished)
    (same : first.skipTrivia = second.skipTrivia) :
    first.tokens = second.tokens := by
  have next : first.next? = second.next? := by
    rw [next?, next?, state, same]
  cases found : second.next? with
  | none =>
      rw [tokens, tokens, scans_of_next?_none found,
        scans_of_next?_none (next.trans found)]
  | some scan =>
      rw [tokens, tokens, scans_of_next? found,
        scans_of_next? (next.trans found)]

/-- A blank is skipped on its own. -/
theorem triviaLength_blank
    {character : Char}
    (blank : Text.isBlank character = true)
    (rest : List Char) :
    triviaLength 0 (character :: rest) = triviaLength 0 rest + 1 := by
  have front :=
    triviaLength_of_isTrivia (Token.Lexeme.first?_blank blank rest) rfl
  simp only [Token.Lexeme.text, List.length_cons, List.drop_succ_cons] at front
  rw [front]
  cases rest with
  | nil => rfl
  | cons next rest =>
      cases another : Text.isBlank next with
      | false =>
          rw [List.takeWhile_cons_of_neg (by simp [another])]
          simp only [List.length_nil, List.drop_zero]
          omega
      | true =>
          have back := triviaLength_of_isTrivia
            (Token.Lexeme.first?_blank another rest) rfl
          rw [Token.Lexeme.text] at back
          rw [List.takeWhile_cons_of_pos another, back]
          omega

/-- A blank yields no token. -/
theorem passes_blank
    {character : Char}
    (blank : Text.isBlank character = true)
    (rest : List Char)
    (start : Position) : Passes [character] rest start [] := by
  have same : skipTrivia ⟨[character] ++ rest, start, false⟩ =
      skipTrivia ⟨rest, start.afterAll [character], false⟩ := by
    simp only [List.singleton_append, skipTrivia, triviaLength_blank blank,
      skip, List.drop_succ_cons, List.take_succ_cons, Position.afterAll_cons,
      Position.afterAll_nil]
  exact tokens_eq_of_skipTrivia rfl same

/-- Blanks yield no token. -/
theorem passes_blanks
    {blanks : List Char}
    (blank : ∀ character ∈ blanks, Text.isBlank character = true)
    (rest : List Char)
    (start : Position) : Passes blanks rest start [] := by
  induction blanks generalizing start with
  | nil => exact passes_nil rest start
  | cons character blanks inductionHypothesis =>
      have behind := inductionHypothesis
        (fun later isLater => blank later (List.mem_cons_of_mem _ isLater))
          (start.after character)
      exact (passes_blank (blank character List.mem_cons_self) (blanks ++ rest)
        start).append behind

end Scanner

/--
Tokens that can be parsed on, as no end of a file and no invalid token can.
-/
def Proper (tokens : List Token) : Prop :=
  ∀ token ∈ tokens, token.kind ≠ .endOfFile ∧ token.kind ≠ .invalid

@[simp]
theorem proper_nil : Proper [] :=
  List.forall_mem_nil _

@[simp]
theorem proper_cons
    (token : Token)
    (tokens : List Token) :
    Proper (token :: tokens) ↔
      (token.kind ≠ .endOfFile ∧ token.kind ≠ .invalid) ∧ Proper tokens :=
  List.forall_mem_cons

@[simp]
theorem proper_append
    (front back : List Token) :
    Proper (front ++ back) ↔ Proper front ∧ Proper back :=
  List.forall_mem_append

/--
What is scanned from a text in front of another has a property, wherever the
text stands.
-/
def Prints (text rest : List Char) (holds : List Token -> Prop) : Prop :=
  ∀ start, ∃ tokens,
    Scanner.Passes text rest start tokens ∧ Proper tokens ∧ holds tokens

namespace Prints

variable {more rest : List Char} {holds : List Token -> Prop}

theorem nothing (done : holds []) : Prints [] rest holds := by
  intro start
  exact ⟨[], Scanner.passes_nil rest start, List.forall_mem_nil _, done⟩

/-- What is scanned from a part goes before what is scanned behind it. -/
theorem part
    {text : List Char}
    {partHolds : List Token -> Prop}
    (printed : Prints text (more ++ rest) partHolds)
    (behind : ∀ tokens, partHolds tokens ->
      Prints more rest fun others => holds (tokens ++ others)) :
    Prints (text ++ more) rest holds := by
  intro start
  obtain ⟨tokens, passes, proper, held⟩ := printed start
  obtain ⟨others, furtherPasses, furtherProper, done⟩ :=
    behind tokens held (start.afterAll text)
  exact ⟨tokens ++ others, passes.append furtherPasses,
    List.forall_mem_append.2 ⟨proper, furtherProper⟩, done⟩

/-- A property may be weakened. -/
theorem mono
    {text : List Char}
    {weaker : List Token -> Prop}
    (printed : Prints text rest holds)
    (weaken : ∀ tokens, holds tokens -> weaker tokens) :
    Prints text rest weaker := by
  intro start
  obtain ⟨tokens, passes, proper, held⟩ := printed start
  exact ⟨tokens, passes, proper, weaken tokens held⟩

/-- Blanks yield nothing. -/
theorem blanks
    {front : List Char}
    (blank : front.all Text.isBlank = true)
    (behind : Prints more rest holds) : Prints (front ++ more) rest holds := by
  intro start
  obtain ⟨others, passes, proper, done⟩ := behind (start.afterAll front)
  have first :=
    Scanner.passes_blanks (List.all_eq_true.1 blank) (more ++ rest) start
  exact ⟨[] ++ others, first.append passes, proper, done⟩

/-- A lexeme yields its token. -/
theorem lexeme
    {pattern : Token.Pattern}
    {text : List Char}
    (first : Token.Lexeme.first? (text ++ (more ++ rest)) =
      some (.matched pattern text))
    (isToken : pattern.isTrivia = false)
    (isClosed : pattern.isOpen = false)
    (behind : ∀ token : Token, token.kind = pattern.kind text ->
      token.spelling = pattern.spelling text ->
      Prints more rest fun others => holds (token :: others)) :
    Prints (text ++ more) rest holds := by
  intro start
  have passes : Scanner.Passes text (more ++ rest) start
      [(Token.Lexeme.matched pattern text).token start] :=
    Scanner.passes_lexeme (.matched pattern text) first isToken start
  have listed : pattern ∈ Token.Pattern.table := by
    obtain ⟨_, _, same, listed, -⟩ | ⟨_, stray⟩ := Token.Lexeme.of_first? first
    · cases same
      exact listed
    · cases stray
  have proper : pattern.kind text ≠ .endOfFile ∧ pattern.kind text ≠ .invalid :=
    ⟨(Token.Pattern.kind_ne listed text).1,
      Token.Pattern.kind_ne_invalid listed isToken isClosed text⟩
  obtain ⟨others, furtherPasses, furtherProper, done⟩ :=
    behind ⟨_, _, start⟩ rfl rfl (start.afterAll text)
  exact ⟨_, passes.append furtherPasses,
    List.forall_mem_cons.2 ⟨proper, furtherProper⟩, done⟩

/-- A sign yields a token of its kind. -/
theorem sign
    (kind : Token.Kind)
    (listed : kind ∈ Token.Pattern.symbols)
    (apart : kind.standsBefore (more ++ rest) = true)
    (behind : ∀ token : Token,
      token.kind = kind ->
      Prints more rest fun others => holds (token :: others)) :
    Prints (kind.describe.toList ++ more) rest holds := by
  apply lexeme (Token.Lexeme.first?_symbol listed apart) rfl rfl
  intro token sameKind _
  exact behind token sameKind

/-- A word yields a token of its kind. -/
theorem word
    {character : Char}
    {letters : List Char}
    (start : Token.Pattern.isWordStart character = true)
    (parts : ∀ part ∈ letters, Token.Pattern.isWordPart part = true)
    (stop : Token.stops (more ++ rest) = true)
    (behind : ∀ token : Token,
      token.kind = Token.Kind.ofWord (String.ofList (character :: letters)) ->
      token.spelling = String.ofList (character :: letters) ->
      Prints more rest fun others => holds (token :: others)) :
    Prints ((character :: letters) ++ more) rest holds :=
  lexeme (Token.Lexeme.first?_word start parts stop) rfl rfl behind

/-- A name yields an identifier. -/
theorem name
    {name : String}
    (isName : IsName name)
    (stop : Token.stops (more ++ rest) = true)
    (behind : ∀ token : Token,
      token.kind = .identifier ->
      token.spelling = name ->
      Prints more rest fun others => holds (token :: others)) :
    Prints (name.toList ++ more) rest holds := by
  obtain ⟨character, letters, spelled, start, parts, kind⟩ := isName
  have same : String.ofList (character :: letters) = name := by
    rw [← spelled, String.ofList_toList]
  rw [spelled]
  apply word start parts stop
  intro token tokenKind spelling
  rw [same] at tokenKind spelling
  exact behind token (tokenKind.trans kind) spelling

/-- A keyword yields a token of its kind. -/
theorem keyword
    (kind : Token.Kind)
    (listed : kind ∈ Token.Kind.keywords)
    (stop : Token.stops (more ++ rest) = true)
    (behind : ∀ token : Token,
      token.kind = kind ->
      Prints more rest fun others => holds (token :: others)) :
    Prints (kind.describe.toList ++ more) rest holds := by
  have known : Token.Kind.ofWord kind.describe = kind ∧
      kind.describe.toList.head?.any Token.Pattern.isWordStart = true ∧
      kind.describe.toList.tail.all Token.Pattern.isWordPart = true := by
    revert listed
    cases kind <;> decide
  obtain ⟨ofWord, start, parts⟩ := known
  cases spelled : kind.describe.toList with
  | nil =>
      rw [spelled] at start
      cases start
  | cons character letters =>
      rw [spelled] at start parts
      rw [List.tail_cons] at parts
      have same : String.ofList (character :: letters) = kind.describe := by
        rw [← spelled, String.ofList_toList]
      apply word start (List.all_eq_true.1 parts) stop
      intro token tokenKind _
      rw [same, ofWord] at tokenKind
      exact behind token tokenKind

/-- A space yields nothing. -/
theorem space
    (behind : Prints more rest holds) :
    Prints (" ".toList ++ more) rest holds :=
  blanks (by decide) behind

/-- A keyword with a space behind it yields a token of its kind. -/
theorem keywordSpace
    (kind : Token.Kind)
    (listed : kind ∈ Token.Kind.keywords)
    (behind : ∀ token : Token,
      token.kind = kind ->
      Prints more rest fun others => holds (token :: others)) :
    Prints (kind.describe.toList ++ (" ".toList ++ more)) rest holds := by
  apply keyword kind listed rfl
  intro token sameKind
  exact space (behind token sameKind)

/-- A sign between spaces yields a token of its kind. -/
theorem spaced
    (kind : Token.Kind)
    (listed : kind ∈ Token.Pattern.symbols)
    (behind : ∀ token : Token, token.kind = kind ->
      Prints more rest fun others => holds (token :: others)) :
    Prints (" ".toList ++ (kind.describe.toList ++ (" ".toList ++ more)))
      rest holds := by
  have apart : kind.standsBefore ((" ".toList ++ more) ++ rest) = true := by
    cases kind <;> rfl
  apply space
  apply sign kind listed apart
  intro token sameKind
  exact space (behind token sameKind)

/-- A lexeme at the end yields its token. -/
theorem lastLexeme
    {pattern : Token.Pattern}
    {text : List Char}
    (first : Token.Lexeme.first? (text ++ rest) = some (.matched pattern text))
    (isToken : pattern.isTrivia = false)
    (isClosed : pattern.isOpen = false)
    (done : ∀ token : Token,
      token.kind = pattern.kind text ->
      token.spelling = pattern.spelling text ->
      holds [token]) :
    Prints text rest holds := by
  have atEnd : Token.Lexeme.first? (text ++ ([] ++ rest)) =
      some (.matched pattern text) := first
  rw [← List.append_nil text]
  apply lexeme atEnd isToken isClosed
  intro token kind spelling
  exact nothing (done token kind spelling)

/-- A sign at the end yields a token of its kind. -/
theorem lastSign
    (kind : Token.Kind)
    (listed : kind ∈ Token.Pattern.symbols)
    (apart : kind.standsBefore rest = true)
    (done : ∀ token : Token, token.kind = kind -> holds [token]) :
    Prints kind.describe.toList rest holds := by
  apply lastLexeme (Token.Lexeme.first?_symbol listed apart) rfl rfl
  intro token sameKind _
  exact done token sameKind

/-- A name at the end yields an identifier. -/
theorem lastName
    {name : String}
    (isName : IsName name)
    (stop : Token.stops rest = true)
    (done : ∀ token : Token,
      token.kind = .identifier -> token.spelling = name -> holds [token]) :
    Prints name.toList rest holds := by
  have atEnd : Token.stops ([] ++ rest) = true := stop
  rw [← List.append_nil name.toList]
  apply Prints.name isName atEnd
  intro token sameKind spelling
  exact nothing (done token sameKind spelling)

/-- A keyword at the end yields a token of its kind. -/
theorem lastKeyword
    (kind : Token.Kind)
    (listed : kind ∈ Token.Kind.keywords)
    (stop : Token.stops rest = true)
    (done : ∀ token : Token, token.kind = kind -> holds [token]) :
    Prints kind.describe.toList rest holds := by
  have atEnd : Token.stops ([] ++ rest) = true := stop
  rw [← List.append_nil kind.describe.toList]
  apply keyword kind listed atEnd
  intro token sameKind
  exact nothing (done token sameKind)

end Prints

/-! ## Listings -/

/-- The texts behind the first one of a listing, each behind its comma. -/
def furtherText (texts : List String) : List Char :=
  texts.flatMap fun text => ", ".toList ++ text.toList

theorem furtherText_cons
    (text : String)
    (texts : List String) :
    furtherText (text :: texts) =
      ", ".toList ++ (text.toList ++ furtherText texts) := by
  rw [furtherText, List.flatMap_cons, List.append_assoc]
  rfl

/-- A listing is its first text with the others behind it. -/
theorem toList_commaSeparated
    (text : String)
    (texts : List String) :
    (Text.commaSeparated (text :: texts)).toList =
      text.toList ++ furtherText texts := by
  induction texts generalizing text with
  | nil =>
      rw [Text.commaSeparated, String.intercalate_singleton, furtherText,
        List.flatMap_nil, List.append_nil]
  | cons next texts inductionHypothesis =>
      rw [Text.commaSeparated, String.intercalate_cons_cons,
        String.toList_append, String.toList_append, ← Text.commaSeparated,
        inductionHypothesis, furtherText_cons, List.append_assoc]

/-- A name or numeral before further texts ends where they start. -/
theorem stops_furtherText
    {rest : List Char}
    (stop : Token.stops rest = true)
    (texts : List String) : Token.stops (furtherText texts ++ rest) = true := by
  cases texts with
  | nil => exact stop
  | cons text texts =>
      rw [furtherText_cons]
      rfl

/-- Texts behind commas are followed one by one. -/
theorem Prints.further
    {α : Type}
    {textOf : α -> String}
    {one : α -> List Token -> Prop}
    {all : List α -> List Token -> Prop}
    {list : List α}
    {rest : List Char}
    (none : all [] [])
    (more : ∀ {item list comma tokens others},
      Token.kind comma = .comma ->
      one item tokens ->
      all list others ->
      all (item :: list) (comma :: (tokens ++ others)))
    (printed : ∀ item ∈ list, ∀ rest, Token.stops rest = true ->
      Prints (textOf item).toList rest (one item))
    (stop : Token.stops rest = true) :
    Prints (furtherText (list.map textOf)) rest (all list) := by
  induction list with
  | nil => exact Prints.nothing none
  | cons item list inductionHypothesis =>
      rw [List.map_cons, furtherText_cons]
      change Prints (",".toList ++ (" ".toList ++ _)) rest _
      apply Prints.sign .comma (by decide) rfl
      intro comma commaKind
      apply Prints.space
      apply Prints.part
        (printed item List.mem_cons_self _ (stops_furtherText stop _))
      intro tokens held
      apply Prints.mono (inductionHypothesis fun other isOther =>
        printed other (List.mem_cons_of_mem item isOther))
      intro others othersHeld
      exact more commaKind held othersHeld

/-- A listing is followed from its first text on; it may be empty. -/
theorem Prints.listing
    {α : Type}
    {textOf : α -> String}
    {one : α -> List Token -> Prop}
    {further all : List α -> List Token -> Prop}
    {list : List α}
    {rest : List Char}
    (none : all [] [])
    (some : ∀ {item list tokens others}, one item tokens ->
      further list others -> all (item :: list) (tokens ++ others))
    (printed : ∀ item ∈ list, ∀ rest,
      Token.stops rest = true -> Prints (textOf item).toList rest (one item))
    (behind :
      Prints (furtherText (list.tail.map textOf)) rest (further list.tail))
    (stop : Token.stops rest = true) :
    Prints (Text.commaSeparated (list.map textOf)).toList rest (all list) := by
  cases list with
  | nil => exact Prints.nothing none
  | cons item list =>
      rw [List.map_cons, toList_commaSeparated]
      apply Prints.part
        (printed item List.mem_cons_self _ (stops_furtherText stop _))
      intro tokens held
      apply Prints.mono behind
      intro others othersHeld
      exact some held othersHeld

/--
Tokens from which several trees are read that are as given once they are erased.
-/
def ListReadsBack
    {α : Type}
    (erase : α -> α)
    (reads : List Token -> List α -> Prop)
    (list : List α)
    (tokens : List Token) : Prop :=
  ∃ read, reads tokens read ∧ read.map erase = list.map erase

end MatrixLang
