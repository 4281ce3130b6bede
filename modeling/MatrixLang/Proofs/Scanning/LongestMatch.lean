import MatrixLang.Proofs.Scanning.Classes

/-!
# The first match is the longest one

The patterns are tried in the order of their table and the first one that
matches wins.  The table is ordered so that of two patterns that match the same
text the earlier one takes more (`Token.Pattern.length_lt_of_precedes`).  So the
scanner takes the longest front of a text that belongs to any class, which
`Token.Lexeme.Cut` says without the table; only a string or a comment without
its end comes before all classes.
-/

namespace MatrixLang
namespace Token

/-! ## The order of the table -/

namespace Pattern

/-- The first characters of the lexemes of a pattern. -/
inductive Family
  | letters
  | digits
  | blanks
  | sign (character : Char)
deriving DecidableEq

/-- The family of a first character. -/
def Family.ofChar (character : Char) : Family :=
  if isWordStart character then .letters
  else if character.isDigit then .digits
  else if Text.isBlank character then .blanks
  else .sign character

/-- The family of the first characters of a pattern. -/
def family : Pattern -> Family
  | .word => .letters
  | .float | .integer => .digits
  | .blanks => .blanks
  | .string | .openString => .sign '"'
  | .lineComment | .blockComment | .openComment => .sign '/'
  | .symbol kind => .sign (kind.describe.toList.headD ' ')

theorem Family.ofChar_of_isDigit
    {character : Char}
    (digit : character.isDigit = true) : Family.ofChar character = .digits := by
  simp [Family.ofChar, isWordStart_of_isDigit digit, digit]

theorem Family.ofChar_of_isBlank
    {character : Char}
    (blank : Text.isBlank character = true) :
    Family.ofChar character = .blanks := by
  simp [Family.ofChar, not_of_isBlank blank, blank]

/-- No spelling is empty, and none starts like a word, a numeral or blanks. -/
theorem ofChar_of_mem_symbols
    {kind : Kind}
    (listed : kind ∈ symbols) :
    ∃ first more, kind.describe.toList = first :: more ∧
      Family.ofChar first = (Pattern.symbol kind).family := by
  have known : ∀ kind ∈ symbols, kind.describe.toList ≠ [] ∧
      Family.ofChar (kind.describe.toList.headD ' ') =
        (Pattern.symbol kind).family := by
    decide
  obtain ⟨nonempty, same⟩ := known kind listed
  cases spelled : kind.describe.toList with
  | nil => exact absurd spelled nonempty
  | cons first more =>
      rw [spelled] at same
      exact ⟨first, more, rfl, same⟩

/-- A pattern takes only texts that start with a character of its family. -/
theorem family_of_lexeme?
    {pattern : Pattern}
    {text lexeme : List Char}
    (listed : pattern ∈ table)
    (found : pattern.lexeme? text = some lexeme) :
    ∀ character ∈ text.head?, Family.ofChar character = pattern.family := by
  intro character isFirst
  unfold lexeme? at found
  split at found
  case h_1 =>
      cases isFirst
      split at found
      · next start => exact if_pos start
      · cases found
  case h_2 =>
      obtain ⟨whole, wholeFound, -⟩ := Option.bind_eq_some_iff.1 found
      exact Family.ofChar_of_isDigit
        (isDigit_of_digits? wholeFound character isFirst)
  case h_3 =>
      exact Family.ofChar_of_isDigit
        (isDigit_of_digits? found character isFirst)
  case h_4 =>
      cases isFirst
      split at found
      · next blank => exact Family.ofChar_of_isBlank blank
      · cases found
  case h_10 kind =>
      dsimp only at found
      split at found
      · next isFront =>
          obtain ⟨rest, rfl⟩ := List.isPrefixOf_iff_prefix.1 isFront
          obtain ⟨first, more, spelled, same⟩ :=
            ofChar_of_mem_symbols (by simpa [table] using listed)
          rw [spelled] at isFirst
          cases isFirst
          exact same
      · cases found
  case h_11 => cases found
  all_goals
    cases isFirst
    decide

/--
A pattern may stand before another one in the table: they start differently, or
the later one takes less, is an open string or comment, or does not go on with
the spelling of the earlier one.
-/
def precedes (earlier later : Pattern) : Bool :=
  earlier.family != later.family ||
    match earlier, later with
    | .float, .integer => true
    | .string, .openString => true
    | .lineComment, .blockComment => true
    | .lineComment, .openComment => true
    | .blockComment, .openComment => true
    | .lineComment, .symbol _ => true
    | .blockComment, .symbol _ => true
    | .openComment, .symbol _ => true
    | .symbol first, .symbol second =>
        !first.describe.toList.isPrefixOf second.describe.toList
    | _, _ => false

/-- The patterns stand in an order in which they may stand. -/
theorem table_precedes :
    table.Pairwise fun earlier later => precedes earlier later = true := by
  decide +kernel

/-- A numeral with a fraction or an exponent is longer than its digits. -/
theorem length_lt_float
    {text numeral digits : List Char}
    (taken : float? text = some numeral)
    (whole : digits? text = some digits) : digits.length < numeral.length := by
  rw [float?, whole, Option.bind_some] at taken
  dsimp only at taken
  split at taken
  · next fraction fractionFound =>
      cases taken
      unfold fraction? at fractionFound
      split at fractionFound
      · obtain ⟨fractionDigits, -, rfl⟩ :=
          Option.map_eq_some_iff.1 fractionFound
        simp only [List.length_append, List.length_cons]
        omega
      · cases fractionFound
  · obtain ⟨exponent, exponentFound, rfl⟩ := Option.map_eq_some_iff.1 taken
    obtain ⟨mark, sign, exponentDigits, rfl, -⟩ := of_exponent? exponentFound
    simp

/-- A comment is taken from a text that starts with its two marks. -/
theorem marks_of_lexeme?
    {pattern : Pattern}
    {text lexeme : List Char}
    (isComment : pattern = .lineComment ∨
      pattern = .blockComment ∨ pattern = .openComment)
    (found : pattern.lexeme? text = some lexeme) :
    ∃ mark rest behind,
      lexeme = '/' :: mark :: rest ∧ text = '/' :: mark :: behind ∧
      mark = if pattern = .lineComment then '/' else '*' := by
  unfold lexeme? at found
  split at found
  case h_7 behind =>
      cases found
      exact ⟨'/', _, behind, rfl, rfl, rfl⟩
  case h_8 behind =>
      obtain ⟨comment, -, rfl⟩ := Option.map_eq_some_iff.1 found
      exact ⟨'*', comment, behind, rfl, rfl, rfl⟩
  case h_9 behind =>
      cases found
      exact ⟨'*', _, behind, rfl, rfl, rfl⟩
  case h_11 => cases found
  all_goals simp at isComment

/-- The only spelling that starts with a slash is a slash. -/
theorem describe_eq_slash
    {kind : Kind}
    (listed : kind ∈ symbols)
    (same : (Pattern.symbol kind).family = .sign '/') :
    kind.describe.toList.length = 1 := by
  revert listed same
  cases kind <;> decide

/-- A comment is longer than the slash with which it starts. -/
theorem length_lt_comment
    {pattern : Pattern}
    {kind : Kind}
    {text lexeme spelling : List Char}
    (isComment : pattern = .lineComment ∨
      pattern = .blockComment ∨ pattern = .openComment)
    (listed : kind ∈ symbols)
    (same : pattern.family = (Pattern.symbol kind).family)
    (taken : pattern.lexeme? text = some lexeme)
    (spelled : (Pattern.symbol kind).lexeme? text = some spelling) :
    spelling.length < lexeme.length := by
  obtain ⟨mark, more, -, rfl, -⟩ := marks_of_lexeme? isComment taken
  have slash : (Pattern.symbol kind).family = .sign '/' := by
    rw [← same]
    rcases isComment with rfl | rfl | rfl <;> rfl
  rw [(of_lexeme?_symbol spelled).1, describe_eq_slash listed slash]
  simp

/--
Of two patterns that match a text, the one that stands before the other takes
more.
-/
theorem length_lt_of_precedes
    {earlier later : Pattern}
    {text lexeme other : List Char}
    (earlierListed : earlier ∈ table)
    (laterListed : later ∈ table)
    (isClosed : later.isOpen = false)
    (before : precedes earlier later = true)
    (taken : earlier.lexeme? text = some lexeme)
    (otherTaken : later.lexeme? text = some other) :
    other.length < lexeme.length := by
  -- Both take the same first character, so only pairs of one family are left.
  have same : earlier.family = later.family := by
    cases text with
    | nil =>
        exact absurd (List.prefix_nil.1 (lexeme?_isPrefix taken))
          (lexeme?_ne_nil taken)
    | cons character rest =>
        rw [← family_of_lexeme? earlierListed taken character rfl,
          ← family_of_lexeme? laterListed otherTaken character rfl]
  simp only [precedes, same, bne_self_eq_false, Bool.false_or] at before
  split at before
  case h_1 => exact length_lt_float taken otherTaken
  case h_3 =>
      obtain ⟨_, _, _, -, rfl, rfl⟩ := marks_of_lexeme? (.inl rfl) taken
      obtain ⟨_, _, _, -, marked, rfl⟩ :=
        marks_of_lexeme? (.inr (.inl rfl)) otherTaken
      simp at marked
  case h_6 =>
      exact length_lt_comment (.inl rfl) (by simpa [table] using laterListed)
        same taken otherTaken
  case h_7 =>
      exact length_lt_comment (.inr (.inl rfl))
        (by simpa [table] using laterListed) same taken
        otherTaken
  case h_8 =>
      exact length_lt_comment (.inr (.inr rfl))
        (by simpa [table] using laterListed) same taken
        otherTaken
  case h_9 first second =>
      obtain ⟨rfl, isFront⟩ := of_lexeme?_symbol taken
      obtain ⟨rfl, otherFront⟩ := of_lexeme?_symbol otherTaken
      rw [Bool.not_eq_true', ← Bool.not_eq_true,
        List.isPrefixOf_iff_prefix] at before
      rcases List.prefix_or_prefix_of_prefix isFront otherFront with
        shorter | longer
      · exact absurd shorter before
      · apply Nat.lt_of_le_of_ne longer.length_le
        intro sameLength
        rw [longer.eq_of_length sameLength] at before
        exact before (List.prefix_refl _)
  case h_10 => cases before
  all_goals cases isClosed

end Pattern

namespace Lexeme

/--
A pattern that matches comes behind the one that matches first, unless it is the
same.
-/
theorem precedes_of_first?
    {text lexeme other : List Char}
    {pattern later : Pattern}
    (found : first? text = some (.matched pattern lexeme))
    (listed : later ∈ Pattern.table)
    (taken : later.lexeme? text = some other) :
    later = pattern ∨ Pattern.precedes pattern later = true := by
  cases text with
  | nil => cases found
  | cons character rest =>
      rw [first?, Option.some.injEq] at found
      cases matched : Pattern.table.findSome? fun pattern =>
          (pattern.lexeme? (character :: rest)).map
            (Lexeme.matched pattern) with
      | none =>
          rw [matched] at found
          cases found
      | some first =>
          rw [matched] at found
          cases found
          obtain ⟨front, first, back, table, mapped, fails⟩ :=
            List.findSome?_eq_some_iff.1 matched
          obtain ⟨text, -, same⟩ := Option.map_eq_some_iff.1 mapped
          cases same
          have ordered := Pattern.table_precedes
          rw [table] at listed ordered
          rcases List.mem_append.1 listed with isBefore | isBehind
          · have fail := fails later isBefore
            rw [taken] at fail
            cases fail
          · rcases List.mem_cons.1 isBehind with same | isBehind
            · exact .inl same
            · exact .inr ((List.pairwise_cons.1
                (List.pairwise_append.1 ordered).2.1).1 later
                isBehind)

/-- Of the patterns that match a text, the one that matches first takes most. -/
theorem longest_of_first?
    {text lexeme other : List Char}
    {pattern later : Pattern}
    (found : first? text = some (.matched pattern lexeme))
    (listed : later ∈ Pattern.table)
    (isClosed : later.isOpen = false)
    (taken : later.lexeme? text = some other) :
    later = pattern ∨ other.length < lexeme.length := by
  rcases precedes_of_first? found listed taken with same | before
  · exact .inl same
  · rcases of_first? found with
      ⟨_, _, same, patternListed, patternTaken⟩ | ⟨_, isStray⟩
    · cases same
      exact .inr (Pattern.length_lt_of_precedes patternListed listed isClosed
        before patternTaken taken)
    · cases isStray

end Lexeme

/-! ## Texts without their end -/

/-- A text that starts with a comment which is never closed. -/
def OpensComment (text : List Char) : Prop :=
  ∃ rest, text = '/' :: '*' :: rest ∧ ¬ ['*', '/'] <:+: rest

/-- A text that starts with a quote and has no second one in its line. -/
def OpensString (text : List Char) : Prop :=
  ∃ rest, text = '"' :: rest ∧ '"' ∉ rest.takeWhile (· != '\n')

namespace Lexeme

theorem first?_of_opensComment
    {text : List Char}
    (opens : OpensComment text) :
    first? text = some (.matched .openComment text) := by
  obtain ⟨rest, rfl, unclosed⟩ := opens
  have block : Pattern.blockComment.lexeme? ('/' :: '*' :: rest) = none := by
    rw [Pattern.lexeme?, Pattern.throughClose?_eq_none_iff.2 unclosed]
    rfl
  have table : Pattern.table =
      (Pattern.table.take 7 ++ [.blockComment]) ++
        .openComment :: Pattern.table.drop 9 :=
    rfl
  apply first?_of_fails table _ rfl
  rw [List.findSome?_append, List.findSome?_singleton, block]
  rfl

theorem first?_of_opensString
    {text : List Char}
    (opens : OpensString text) :
    first? text = some (.matched .openString (text.takeWhile (· != '\n'))) := by
  obtain ⟨rest, rfl, unclosed⟩ := opens
  have ends : Text.EndsLine (rest.dropWhile (· != '\n')) := by
    intro character isNext
    have stopped := List.head?_dropWhile_not (· != '\n') rest
    rw [Option.mem_def.1 isNext] at stopped
    simpa using stopped
  have inner : ∀ character ∈ rest.takeWhile (· != '\n'),
      character ≠ '"' ∧ character ≠ '\n' := by
    intro character inside
    refine ⟨?_, by
      simpa using List.all_eq_true.1 List.all_takeWhile character inside⟩
    rintro rfl
    exact unclosed inside
  have found := first?_openString inner ends
  rwa [List.takeWhile_append_dropWhile] at found

/-- A comment is left open only where it is never closed. -/
theorem opensComment_of_first?
    {text lexeme : List Char}
    (found : first? text = some (.matched .openComment lexeme)) :
    OpensComment text := by
  rcases of_first? found with ⟨_, _, same, -, taken⟩ | ⟨_, isStray⟩
  · cases same
    obtain ⟨_, _, rest, -, rfl, rfl⟩ :=
      Pattern.marks_of_lexeme? (.inr (.inr rfl)) taken
    refine ⟨rest, rfl, fun closed => ?_⟩
    obtain ⟨comment, taken⟩ := Option.ne_none_iff_exists.1
      (fun unclosed => Pattern.throughClose?_eq_none_iff.1 unclosed closed)
    have block : Pattern.blockComment.lexeme? ('/' :: '*' :: rest) =
        some ('/' :: '*' :: comment) := by
      rw [Pattern.lexeme?, ← taken]
      rfl
    rcases precedes_of_first? found (by decide) block with isSame | before
    · cases isSame
    · cases before
  · cases isStray

/-- A string is left open only where no second quote stands in its line. -/
theorem opensString_of_first?
    {text lexeme : List Char}
    (found : first? text = some (.matched .openString lexeme)) :
    OpensString text := by
  rcases of_first? found with ⟨_, _, same, -, taken⟩ | ⟨_, isStray⟩
  · cases same
    unfold Pattern.lexeme? at taken
    split at taken
    case h_6 _ rest _ =>
        refine ⟨rest, rfl, fun second => ?_⟩
        obtain ⟨body, behind, line, without⟩ :=
          List.eq_append_cons_of_mem second
        have isLine : body ++ '"' :: behind <+: rest :=
          line ▸ List.takeWhile_prefix _
        have holds : Pattern.string.Holds ('"' :: (body ++ ['"'])) := by
          refine ⟨body, rfl, fun character inside => ⟨?_, ?_⟩⟩
          · rintro rfl
            exact without inside
          · have inLine : character ∈ rest.takeWhile (· != '\n') := by
              rw [line]
              exact List.mem_append_left _ inside
            simpa using List.all_eq_true.1 List.all_takeWhile character inLine
        have isFront : '"' :: (body ++ ['"']) <+: '"' :: rest := by
          obtain ⟨left, rfl⟩ := isLine
          exact ⟨behind ++ left, by simp⟩
        obtain ⟨closed, closedTaken, -⟩ := holds.taken isFront
        rcases precedes_of_first? found (by decide) closedTaken with
          isSame | before
        · cases isSame
        · cases before
    all_goals contradiction
  · cases isStray

end Lexeme

/-! ## The longest match -/

/--
What is cut from the front of a text: a comment or a string that is not closed,
or else the longest front that belongs to any class, or else one character.
-/
inductive Lexeme.Cut (text : List Char) : Lexeme -> Prop
  | openComment
      (opens : OpensComment text) : Cut text (.matched .openComment text)
  | openString (opens : OpensString text) :
      Cut text (.matched .openString (text.takeWhile (· != '\n')))
  | longest
      {pattern : Pattern}
      {front : List Char}
      (noComment : ¬ OpensComment text)
      (noString : ¬ OpensString text)
      (holds : pattern.Holds front)
      (isFront : front <+: text)
      (longest : ∀ other shorter,
        Pattern.Holds other shorter -> shorter <+: text ->
          shorter.length ≤ front.length) :
      Cut text (.matched pattern front)
  | stray
      {character : Char}
      (noComment : ¬ OpensComment text)
      (noString : ¬ OpensString text)
      (first : text.head? = some character)
      (nothing : ∀ pattern front,
        Pattern.Holds pattern front -> ¬ front <+: text) :
      Cut text (.stray character)

/-- A pattern with members stands in the table and is not left open. -/
theorem Pattern.Holds.listed
    {pattern : Pattern}
    {front : List Char}
    (holds : pattern.Holds front) :
    pattern ∈ table ∧ pattern.isOpen = false := by
  cases pattern with
  | symbol kind => exact ⟨by simpa [table] using holds.1, rfl⟩
  | openString | openComment => cases holds
  | _ => exact ⟨by decide, rfl⟩

namespace Lexeme

/-- What the scanner takes first is what is cut. -/
theorem cut_of_first?
    {text : List Char}
    {lexeme : Lexeme}
    (found : first? text = some lexeme) : Cut text lexeme := by
  by_cases noComment : OpensComment text
  · rw [first?_of_opensComment noComment] at found
    cases found
    exact .openComment noComment
  by_cases noString : OpensString text
  · rw [first?_of_opensString noString] at found
    cases found
    exact .openString noString
  cases lexeme with
  | stray character =>
      cases text with
      | nil => cases found
      | cons first rest =>
          obtain ⟨rfl, fails⟩ := first?_eq_stray_iff.1 found
          refine .stray noComment noString rfl
            fun pattern front holds isFront => ?_
          obtain ⟨taken, isTaken, -⟩ := holds.taken isFront
          rw [fails pattern holds.listed.1] at isTaken
          cases isTaken
  | matched pattern front =>
      rcases of_first? found with ⟨_, _, same, listed, taken⟩ | ⟨_, isStray⟩
      · cases same
        have isClosed : pattern.isOpen = false := by
          cases pattern with
          | openComment => exact absurd (opensComment_of_first? found) noComment
          | openString => exact absurd (opensString_of_first? found) noString
          | _ => rfl
        refine .longest noComment noString
          (Pattern.holds_of_lexeme? listed isClosed taken)
          (Pattern.lexeme?_isPrefix taken) fun other shorter holds isFront => ?_
        obtain ⟨otherListed, otherClosed⟩ := holds.listed
        obtain ⟨longer, otherTaken, within⟩ := holds.taken isFront
        rcases longest_of_first? found otherListed otherClosed otherTaken with
          rfl | shorter
        · rw [taken] at otherTaken
          cases otherTaken
          exact within
        · omega
      · cases isStray

/-- At most one lexeme can be cut from a text. -/
theorem Cut.first?_eq
    {text : List Char}
    {lexeme : Lexeme}
    (cut : Cut text lexeme) : first? text = some lexeme := by
  cases cut with
  | openComment opens => exact first?_of_opensComment opens
  | openString opens => exact first?_of_opensString opens
  | @longest pattern front noComment noString holds isFront longest =>
      obtain ⟨listed, isClosed⟩ := holds.listed
      obtain ⟨longer, taken, within⟩ := holds.taken isFront
      cases found : first? text with
      | none =>
          cases text with
          | nil =>
              have empty := List.prefix_nil.1 (Pattern.lexeme?_isPrefix taken)
              exact absurd empty (Pattern.lexeme?_ne_nil taken)
          | cons character rest => cases found
      | some lexeme =>
          cases cut_of_first? found with
          | openComment opens => exact absurd opens noComment
          | openString opens => exact absurd opens noString
          | stray _ _ _ nothing =>
              exact absurd isFront (nothing pattern front holds)
          | @longest other otherFront _ _ otherHolds otherIsFront
              otherLongest =>
              have sameLength : front.length = otherFront.length :=
                Nat.le_antisymm (otherLongest _ _ holds isFront)
                  (longest _ _ otherHolds otherIsFront)
              have sameFront : front = otherFront :=
                (List.prefix_of_prefix_length_le isFront otherIsFront
                  (Nat.le_of_eq sameLength)).eq_of_length sameLength
              rcases longest_of_first? found listed isClosed taken with
                rfl | shorter
              · rw [sameFront]
              · omega
  | @stray character noComment noString first nothing =>
      obtain ⟨rest, rfl⟩ := List.head?_eq_some_iff.1 first
      cases cut : first? (character :: rest) with
      | none => cases cut
      | some lexeme =>
          cases cut_of_first? cut with
          | openComment opens => exact absurd opens noComment
          | openString opens => exact absurd opens noString
          | longest _ _ holds isFront =>
              exact absurd isFront (nothing _ _ holds)
          | stray _ _ other =>
              cases other
              rfl

/--
The kind of the token of a lexeme, if it yields one: that of its class, and for
a word its kind in the table of reserved words or else an identifier.
-/
def kind? : Lexeme -> Option Kind
  | .matched .word text =>
      some ((Kind.reserved.lookup (String.ofList text)).getD .identifier)
  | .matched .float _ => some .floatLiteral
  | .matched .integer _ => some .intLiteral
  | .matched .string _ => some .stringLiteral
  | .matched (.symbol kind) _ => some kind
  | .matched .blanks _ | .matched .lineComment _ | .matched .blockComment _ =>
      none
  | .matched .openString _ | .matched .openComment _ | .stray _ => some .invalid

/-- Trivia yield no token, and every other lexeme yields one of its kind. -/
theorem kind?_eq
    (lexeme : Lexeme)
    (position : Position) :
    lexeme.kind? =
      if lexeme.isTrivia then none else some (lexeme.token position).kind := by
  cases lexeme with
  | stray character => rfl
  | matched pattern text => cases pattern <;> rfl

end Lexeme
end Token

namespace Scanner

/--
Of a text that is not empty the scanner takes the lexeme that is cut from it by
the longest match, and there is only one.  Blanks and comments yield no token,
so the next token is the next one behind them.  Any other lexeme is spelled out
by the next token, which has the kind of its class.
-/
theorem next?_longest
    (scanner : Scanner)
    (unfinished : scanner.finished = false)
    (nonempty : scanner.rest ≠ []) :
    ∃ lexeme, Token.Lexeme.first? scanner.rest = some lexeme ∧
      (∀ other, Token.Lexeme.Cut scanner.rest other ↔ other = lexeme) ∧
      (lexeme.kind? = none ->
        scanner.next? = (scanner.skip lexeme.text.length).next?) ∧
      (∀ kind, lexeme.kind? = some kind ->
        ∃ scan, scanner.next? = some scan ∧
          scan.token.kind = kind ∧
          scan.token.position = scanner.position ∧
          scan.token.written = String.ofList lexeme.text ∧
          scan.rest = scanner.skip lexeme.text.length) := by
  cases found : Token.Lexeme.first? scanner.rest with
  | none =>
      cases left : scanner.rest with
      | nil => exact absurd left nonempty
      | cons character rest =>
          rw [left] at found
          cases found
  | some lexeme =>
      have kind := lexeme.kind?_eq scanner.position
      refine ⟨lexeme, rfl,
        fun other => ⟨fun cut => ?_, ?_⟩, fun isTrivia => ?_, ?_⟩
      · exact Option.some.inj (cut.first?_eq.symm.trans found)
      · rintro rfl
        exact Token.Lexeme.cut_of_first? found
      · apply next?_of_isTrivia found
        rw [kind] at isTrivia
        simpa using isTrivia
      · intro other yields
        rw [kind] at yields
        split at yields
        · cases yields
        · next isToken =>
            cases yields
            refine ⟨_,
              next?_of_not_isTrivia unfinished found (by simpa using isToken),
              rfl, ?_, (Token.Lexeme.written_token found _).1, rfl⟩
            cases lexeme <;> rfl

/-- An exponent without digits does not belong to a numeral. -/
theorem next?_longest_partialExponent :
    Token.Lexeme.Cut "1.5e+".toList (.matched .float "1.5".toList) ∧
      ∃ scan, (Scanner.ofText "1.5e+").next? = some scan ∧
        scan.token.kind = .floatLiteral ∧ scan.token.written = "1.5" := by
  obtain ⟨lexeme, found, cut, -, yields⟩ :=
    next?_longest (.ofText "1.5e+") rfl (by decide)
  have same : lexeme = .matched .float "1.5".toList :=
    Option.some.inj (found.symm.trans rfl)
  subst same
  obtain ⟨scan, next, kind, -, written, -⟩ := yields .floatLiteral rfl
  exact ⟨(cut _).2 rfl, scan, next, kind, written⟩

end Scanner
end MatrixLang
