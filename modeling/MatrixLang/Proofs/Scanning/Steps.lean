import MatrixLang.Proofs.Scanning.Place
import MatrixLang.Proofs.Scanning.Trivia

/-!
# The steps of a scanner

A scanner is asked for its next token or moved over a number of bytes, in any
order.  `next_cases` says what one request can do; `Reaches` collects the
requests made so far with their answers.  Along every such run the scanner
stands at a place of its source, and the end of the file is answered once.
-/

namespace MatrixLang
namespace Scanner

/-- A scanner gives no answer exactly behind its end-of-file token. -/
theorem next?_eq_none_iff
    {scanner : Scanner} :
    scanner.next? = none ↔ scanner.finished = true := by
  cases state : scanner.finished with
  | true => simp [next?, state]
  | false =>
      simp only [next?, state]
      cases Token.Lexeme.first? scanner.skipTrivia.rest <;> simp

/--
A token is the first lexeme behind the trivia, or the end of the file where
there is none.
-/
theorem next_cases
    {scanner : Scanner}
    {scan : Scan}
    (found : scanner.next? = some scan) :
    scanner.finished = false ∧
      ((∃ lexeme,
        Token.Lexeme.first? scanner.skipTrivia.rest = some lexeme ∧
        scan.token = lexeme.token scanner.skipTrivia.position ∧
        scan.rest = scanner.skipTrivia.skip lexeme.text.length) ∨
      (scanner.skipTrivia.rest = [] ∧
        scan.token = .endOfFile scanner.skipTrivia.position ∧
        scan.rest = { scanner.skipTrivia with finished := true })) := by
  cases state : scanner.finished with
  | true =>
      rw [next?_eq_none_iff.2 state] at found
      cases found
  | false =>
      refine ⟨rfl, ?_⟩
      simp only [next?, state] at found
      cases first : Token.Lexeme.first? scanner.skipTrivia.rest with
      | some lexeme =>
          rw [first] at found
          cases found
          exact Or.inl ⟨lexeme, rfl, rfl, rfl⟩
      | none =>
          rw [first] at found
          cases found
          refine Or.inr ⟨?_, rfl, rfl⟩
          cases left : scanner.skipTrivia.rest with
          | nil => rfl
          | cons character rest =>
              rw [left] at first
              cases first

/-- The trivia before a token lies between two places. -/
theorem StandsAt.skipTrivia
    {scanner : Scanner}
    {source : String}
    {place : source.Pos}
    (stands : scanner.StandsAt place) :
    ∃ start : source.Pos,
      place ≤ start ∧
      Text.Trivia (source.sliceFrom start).copy.toList
        (source.extract place start).toList ∧
      scanner.skipTrivia.StandsAt start := by
  obtain ⟨start, forward, between, -, standsBehind⟩ :=
    stands.skip (triviaLength 0 scanner.rest)
  refine ⟨start, forward, ?_, standsBehind⟩
  rw [between, ← standsBehind.rest, String.toList_ofList, String.toList_ofList]
  exact (trivia_triviaLength scanner.rest).1

/--
A token that is not the end of the file is all the text up to the new place.
-/
theorem StandsAt.next
    {scanner : Scanner}
    {scan : Scan}
    {source : String}
    {place : source.Pos}
    (stands : scanner.StandsAt place)
    (found : scanner.next? = some scan)
    (isToken : scan.token.kind ≠ .endOfFile) :
    ∃ start stop : source.Pos,
      place ≤ start ∧
      start < stop ∧
      Text.Trivia (source.sliceFrom start).copy.toList
        (source.extract place start).toList ∧
      scan.token.position = .ofPlace start ∧
      source.extract start stop = scan.token.written ∧
      scan.rest.StandsAt stop := by
  obtain ⟨start, forward, trivia, standsBefore⟩ := stands.skipTrivia
  obtain ⟨-, ⟨lexeme, first, token, rest⟩ | ⟨-, token, -⟩⟩ := next_cases found
  · obtain ⟨stop, onward, between, offset, standsBehind⟩ :=
      standsBefore.skip lexeme.text.length
    have taken := List.prefix_iff_eq_take.1 (Token.Lexeme.text_isPrefix first)
    rw [← taken] at between offset
    have positive : (String.ofList lexeme.text).utf8ByteSize ≠ 0 := by
      rw [ne_eq, String.utf8ByteSize_eq_zero_iff, String.ofList_eq_empty_iff]
      exact Token.Lexeme.text_ne_nil first
    refine ⟨start, stop, forward, ?_, trivia, ?_, ?_, ?_⟩
    · simp only [String.Pos.lt_iff, String.Pos.Raw.lt_iff]
      omega
    · rw [token, ← standsBefore.position]
      cases lexeme <;> rfl
    · rw [between, token]
      exact (Token.Lexeme.written_token first _).1.symm
    · rw [rest]
      exact standsBehind
  · rw [token] at isToken
    exact absurd rfl isToken

/-- The end of the file is answered at the end of the source. -/
theorem StandsAt.next_endOfFile
    {scanner : Scanner}
    {scan : Scan}
    {source : String}
    {place : source.Pos}
    (stands : scanner.StandsAt place)
    (found : scanner.next? = some scan)
    (isEnd : scan.token.kind = .endOfFile) :
    Text.Trivia [] (source.extract place source.endPos).toList ∧
      scan.token = .endOfFile (.ofPlace source.endPos) ∧
      scan.rest.StandsAt source.endPos ∧
      scan.rest.finished = true := by
  obtain ⟨start, forward, trivia, standsBefore⟩ := stands.skipTrivia
  obtain ⟨-, ⟨lexeme, first, token, -⟩ | ⟨empty, token, rest⟩⟩ :=
    next_cases found
  · rw [token] at isEnd
    exact absurd isEnd (Token.Lexeme.written_token first _).2
  · obtain rfl := standsBefore.eq_endPos empty
    rw [← standsBefore.rest, empty, String.toList_ofList] at trivia
    rw [token, rest]
    refine ⟨trivia, ?_, ⟨standsBefore.rest, standsBefore.position⟩, rfl⟩
    rw [standsBefore.position]

/-- A token that is not the end of the file leaves more to be answered. -/
theorem finished_of_next?
    {scanner : Scanner}
    {scan : Scan}
    (found : scanner.next? = some scan) :
    scan.rest.finished = decide (scan.token.kind = .endOfFile) := by
  obtain ⟨unfinished, ⟨lexeme, first, token, rest⟩ | ⟨-, token, rest⟩⟩ :=
    next_cases found
  · have other :=
      (Token.Lexeme.written_token first scanner.skipTrivia.position).2
    rw [token, rest, decide_eq_false other]
    exact unfinished
  · rw [token, rest]
    rfl

/--
The scanners that requests lead to, with the answers to those for a token.
-/
inductive Reaches (source : String) : List (Option Token) -> Scanner -> Prop
  | start : Reaches source [] (.ofText source)
  /-- A request for a token is answered with one. -/
  | next {answers : List (Option Token)} {scanner : Scanner} {scan : Scan} :
      Reaches source answers scanner ->
      scanner.next? = some scan ->
      Reaches source (answers ++ [some scan.token]) scan.rest
  /-- A request for a token finds none and changes nothing. -/
  | exhausted {answers : List (Option Token)} {scanner : Scanner} :
      Reaches source answers scanner ->
      scanner.next? = none ->
      Reaches source (answers ++ [none]) scanner
  /-- The scanner is moved over bytes that end between two characters. -/
  | advance
      {answers : List (Option Token)}
      {scanner moved : Scanner}
      {bytes : Nat} :
      Reaches source answers scanner ->
      scanner.skipBytes? bytes = some moved ->
      Reaches source answers moved

/-- How many answers are the end of the file. -/
def endCount (answers : List (Option Token)) : Nat :=
  answers.countP fun answer => answer.any (·.kind = .endOfFile)

namespace Reaches

variable {source : String} {answers : List (Option Token)} {scanner : Scanner}

/-- Every request leaves the scanner at a place of its source. -/
theorem standsAt
    (reached : Reaches source answers scanner) :
    ∃ place : source.Pos, scanner.StandsAt place := by
  induction reached with
  | start => exact ⟨source.startPos, standsAt_ofText source⟩
  | @next answers scanner scan _ found inductionHypothesis =>
      obtain ⟨place, stands⟩ := inductionHypothesis
      by_cases isEnd : scan.token.kind = .endOfFile
      · exact ⟨source.endPos, (stands.next_endOfFile found isEnd).2.2.1⟩
      · obtain ⟨start, stop, -, -, -, -, -, standsBehind⟩ :=
          stands.next found isEnd
        exact ⟨stop, standsBehind⟩
  | exhausted _ _ inductionHypothesis => exact inductionHypothesis
  | advance _ skipped inductionHypothesis =>
      obtain ⟨place, stands⟩ := inductionHypothesis
      obtain ⟨stop, -, standsBehind⟩ := stands.skipBytes skipped
      exact ⟨stop, standsBehind⟩

/--
The end of the file has been answered once by a finished scanner, and by no
other.
-/
theorem endCount_eq
    (reached : Reaches source answers scanner) :
    endCount answers = if scanner.finished then 1 else 0 := by
  induction reached with
  | start => rfl
  | @next answers scanner scan _ found inductionHypothesis =>
      rw [(next_cases found).1] at inductionHypothesis
      rw [endCount, List.countP_append, ← endCount, inductionHypothesis,
        finished_of_next? found]
      by_cases isEnd : scan.token.kind = .endOfFile <;> simp [isEnd]
  | exhausted _ _ inductionHypothesis =>
      rw [endCount, List.countP_append, ← endCount, inductionHypothesis]
      rfl
  | advance _ skipped inductionHypothesis =>
      obtain ⟨count, -, rfl⟩ := Option.map_eq_some_iff.1 skipped
      exact inductionHypothesis

end Reaches

/--
A scanner that is read to its end answers the end of the file unless it already
has.
-/
theorem endCount_tokens
    (scanner : Scanner) :
    endCount (scanner.tokens.map some) = if scanner.finished then 0 else 1 := by
  induction size : scanner.size using Nat.strongRecOn generalizing scanner with
  | ind size inductionHypothesis =>
      cases found : scanner.next? with
      | none =>
          simp [tokens, scans_of_next?_none found,
            next?_eq_none_iff.1 found, endCount]
      | some scan =>
          have smaller := size_lt_of_next? found
          have behind := inductionHypothesis _ (by omega) scan.rest rfl
          rw [finished_of_next? found] at behind
          rw [tokens, scans_of_next? found, (next_cases found).1, List.map_cons,
            List.map_cons, endCount, List.countP_cons, ← endCount, ← tokens,
            behind]
          by_cases isEnd : scan.token.kind = .endOfFile <;> simp [isEnd]

/--
Along every run of requests the scanner stands between two characters of its
source and knows the line and the column.  A token is the text from its
position to the new place, behind trivia.  The end of the file is answered once,
at the end of the source, and nothing behind it.
-/
theorem Reaches.invariant
    {source : String}
    {answers : List (Option Token)}
    {scanner : Scanner}
    (reached : Reaches source answers scanner) :
    ∃ place : source.Pos,
      scanner.StandsAt place ∧
      (∀ scan, scanner.next? = some scan -> scan.token.kind ≠ .endOfFile ->
        ∃ start stop : source.Pos,
          place ≤ start ∧
          start < stop ∧
          Text.Trivia (source.sliceFrom start).copy.toList
            (source.extract place start).toList ∧
          scan.token.position = .ofPlace start ∧
          source.extract start stop = scan.token.written ∧
          scan.rest.StandsAt stop) ∧
      (∀ scan, scanner.next? = some scan -> scan.token.kind = .endOfFile ->
        scan.rest.StandsAt source.endPos ∧ scan.rest.next? = none) ∧
      (∀ bytes, (scanner.skipBytes? bytes).isSome ↔
        String.Pos.Raw.IsValid source
          ⟨min (place.offset.byteIdx + bytes) source.utf8ByteSize⟩) ∧
      (∀ bytes moved, scanner.skipBytes? bytes = some moved ->
        ∃ stop : source.Pos,
          stop.offset.byteIdx =
            min (place.offset.byteIdx + bytes) source.utf8ByteSize ∧
          moved.StandsAt stop) ∧
      endCount answers ≤ 1 ∧
      (scanner.next? = none ↔ endCount answers = 1) ∧
      endCount (answers ++ scanner.tokens.map some) = 1 := by
  obtain ⟨place, stands⟩ := reached.standsAt
  have ends := reached.endCount_eq
  refine ⟨place, stands, fun scan found isToken => stands.next found isToken,
    ?_, stands.isSome_skipBytes?,
    fun bytes moved skipped => stands.skipBytes skipped, ?_, ?_, ?_⟩
  · intro scan found isEnd
    obtain ⟨-, -, standsBehind, finished⟩ := stands.next_endOfFile found isEnd
    exact ⟨standsBehind, next?_eq_none_iff.2 finished⟩
  · rw [ends]
    split <;> omega
  · rw [next?_eq_none_iff, ends]
    simp
  · rw [endCount, List.countP_append, ← endCount, ← endCount, ends,
      endCount_tokens]
    split <;> rfl

/--
Two bytes are moved over as one character, and the comment behind it is no
token.
-/
theorem Reaches.invariant_comment :
    ∃ place : "ä/**/\nb".Pos,
      StandsAt ⟨[], ⟨2, 2⟩, false⟩ place ∧
      endCount ([some ⟨.identifier, "b", ⟨2, 1⟩⟩] ++
        (tokens ⟨[], ⟨2, 2⟩, false⟩).map some) = 1 := by
  have advanced :
      Reaches "ä/**/\nb" [] ⟨['/', '*', '*', '/', '\n', 'b'], ⟨1, 2⟩, false⟩ :=
    .advance .start (show skipBytes? _ 2 = _ by decide)
  have reached : Reaches "ä/**/\nb" [some ⟨.identifier, "b", ⟨2, 1⟩⟩]
      ⟨[], ⟨2, 2⟩, false⟩ :=
    .next advanced (show _ = some (⟨_, [], _⟩ : Scan) by rfl)
  obtain ⟨place, stands, -, -, -, -, -, -, ends⟩ := Reaches.invariant reached
  exact ⟨place, stands, ends⟩

end Scanner
end MatrixLang
