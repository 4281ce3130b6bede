import MatrixLang.Proofs.Reuse
import MatrixLang.Proofs.Scanning.Steps

/-!
# Scanning on demand

A parser may pull its tokens from a scanner, one at a time, or from the list of
all the tokens of the text.  Both ways lead to the same reply, since they show
the parser the same tokens.  A scanner that is asked on demand has read its text
up to the end of the last token that was pulled and no further: each request
moves it from the end of one token to the end of the next
(`Scanner.HasReached.next`), and it stays at the end of the text once the end of
the file has been answered (`Scanner.HasReached.exhausted`).
-/

namespace MatrixLang

namespace Scanner

/--
A scanner has read a text up to the end of the token at an index, and no
further.  Behind the last token stands the end of the file.
-/
structure HasReached
    (text : String)
    (index : Nat)
    (scanner : Scanner) : Prop where
  /-- The tokens behind the index are still to come. -/
  ahead : scanner.tokens = (tokenize text).drop (index + 1)
  /-- The scanner answers no more once it has answered the end of the file. -/
  finished : scanner.finished =
    decide ((tokenAt (tokenize text) index).kind = .endOfFile)
  /--
  A token is written from its position up to the place where the scanner stands.
  -/
  token : (tokenAt (tokenize text) index).kind ≠ .endOfFile ->
    ∃ start stop : text.Pos,
      start < stop ∧
      (tokenAt (tokenize text) index).position = .ofPlace start ∧
      text.extract start stop = (tokenAt (tokenize text) index).written ∧
      scanner.StandsAt stop
  /-- The end of the file is answered at the end of the text. -/
  ended : (tokenAt (tokenize text) index).kind = .endOfFile ->
    scanner.StandsAt text.endPos

/-- A scanner that is asked for its next token reaches the end of it. -/
theorem StandsAt.reaches
    {scanner : Scanner}
    {scan : Scan}
    {text : String}
    {place : text.Pos}
    {index : Nat}
    (stands : scanner.StandsAt place)
    (ahead : scanner.tokens = (tokenize text).drop index)
    (found : scanner.next? = some scan) :
    scan.rest.HasReached text index := by
  rw [tokens, scans_of_next? found, List.map_cons] at ahead
  obtain ⟨here, further⟩ := tokenAt_of_drop ahead.symm
  refine ⟨further.symm, ?_, fun isToken => ?_, fun isEnd => ?_⟩
  · rw [here, finished_of_next? found]
  · rw [here] at isToken ⊢
    obtain ⟨start, stop, -, forward, -, position, written, standsBehind⟩ :=
      stands.next found isToken
    exact ⟨start, stop, forward, position, written, standsBehind⟩
  · rw [here] at isEnd
    exact (stands.next_endOfFile found isEnd).2.2.1

namespace HasReached

variable {text : String} {index : Nat} {scanner : Scanner}

/-- A scanner always stands at some place of its text. -/
theorem standsAt
    (reached : scanner.HasReached text index) :
    ∃ place : text.Pos, scanner.StandsAt place := by
  by_cases isEnd : (tokenAt (tokenize text) index).kind = .endOfFile
  · exact ⟨text.endPos, reached.ended isEnd⟩
  · obtain ⟨start, stop, -, -, -, stands⟩ := reached.token isEnd
    exact ⟨stop, stands⟩

/--
Another token is read from the end of the one before it up to its own end.
-/
theorem next
    {scan : Scan}
    (reached : scanner.HasReached text index)
    (found : scanner.next? = some scan) :
    scan.rest.HasReached text (index + 1) := by
  obtain ⟨place, stands⟩ := reached.standsAt
  exact stands.reaches reached.ahead found

/-- Behind the end of the file a scanner stays where it is. -/
theorem exhausted
    (reached : scanner.HasReached text index)
    (none : scanner.next? = none) :
    scanner.HasReached text (index + 1) := by
  have finished := next?_eq_none_iff.1 none
  have isEnd : (tokenAt (tokenize text) index).kind = .endOfFile := by
    simpa [finished] using reached.finished
  have nothing : (tokenize text).drop (index + 1) = [] := by
    rw [← reached.ahead, tokens, scans_of_next?_none none, List.map_nil]
  have behind : (tokenAt (tokenize text) (index + 1)).kind = .endOfFile := by
    rw [← endOfFile_tokenAt (List.drop_eq_nil_iff.1 nothing)]
    rfl
  refine ⟨?_, ?_, fun isToken => absurd behind isToken,
    fun _ => reached.ended isEnd⟩
  · rw [reached.ahead, nothing, ← List.drop_drop, nothing, List.drop_nil]
  · rw [finished, behind]
    rfl

end HasReached
end Scanner

namespace Cursor

/--
A cursor pulls its tokens from a scanner that has read a text up to the token at
an index.
-/
def HasScanned (text : String) (index : Nat) (cursor : Cursor) : Prop :=
  ∃ scanner, cursor.source = .scanned scanner ∧ scanner.HasReached text index

/-- A step asks the scanner for its next token. -/
theorem source_advance
    {cursor : Cursor}
    {scanner : Scanner}
    (known : cursor.source = .scanned scanner) :
    cursor.advance.cursor.source =
      .scanned ((scanner.next?.map Scan.rest).getD scanner) := by
  unfold advance
  rw [known, TokenStream.next?]
  cases scanner.next? with
  | none => rfl
  | some scan =>
      dsimp only [Option.map_some]
      split <;> rfl

/-- A step reads the text up to the end of one token more. -/
theorem HasScanned.advance
    {text : String}
    {index : Nat}
    {cursor : Cursor}
    (scanned : cursor.HasScanned text index) :
    cursor.advance.cursor.HasScanned text (index + 1) := by
  obtain ⟨scanner, known, reached⟩ := scanned
  refine ⟨_, source_advance known, ?_⟩
  cases found : scanner.next? with
  | none => exact reached.exhausted found
  | some scan => exact reached.next found

/-- The first step reads the text up to the end of its first token. -/
theorem hasScanned_first
    (text : String) :
    (before (.ofText text)).advance.cursor.HasScanned text 0 := by
  have source : (before (.ofText text)).source = .scanned (.ofText text) := rfl
  refine ⟨_, source_advance source, ?_⟩
  cases found : (Scanner.ofText text).next? with
  | none =>
      have finished := Scanner.next?_eq_none_iff.1 found
      cases finished
  | some scan => exact (Scanner.standsAt_ofText text).reaches rfl found

end Cursor

/-- A run that starts with a step has taken that step before all others. -/
theorem Parser.Runs.hasScanned
    {α : Type}
    {parser : Parser α}
    {text : String}
    {count : Nat}
    {reply : Reply α}
    (runs : (Parser.advance parser).Runs (.before (.ofText text)) count reply) :
    ∃ last, count = last + 1 ∧ reply.cursor.HasScanned text last := by
  have first := Cursor.hasScanned_first text
  cases runs with
  | @advance _ _ _ after last _ moved further =>
      rw [moved] at first
      have reached := further.keeps (fun _ scanned => scanned)
        (fun scanned => scanned.advance) first
      rw [Nat.zero_add] at reached
      exact ⟨last, Nat.add_comm 1 last, reached⟩
  | stuck _ failed =>
      rw [failed] at first
      exact ⟨0, rfl, first⟩

/--
Scanning on demand agrees with scanning in advance.  A parser that is started on
a text and on the list of its tokens gives the same value or fails for the same
reason, and leaves the same lookahead token.  On the text, when the token at an
index is the last one that it pulls, the scanner has read the text up to the end
of that token and no further.
-/
theorem Parser.parse_onDemand
    {α : Type}
    (parser : Parser α)
    (text : String) :
    ((Parser.advance parser).parse (.before (.ofText text))).result =
        ((Parser.advance parser).parse
          (.before (.listed (tokenize text)))).result ∧
      ((Parser.advance parser).parse (.before (.ofText text))).cursor.current =
        ((Parser.advance parser).parse
          (.before (.listed (tokenize text)))).cursor.current ∧
      ∃ last scanner,
        (∀ count,
          (Parser.advance parser).Runs (.before (.ofText text)) count
            ((Parser.advance parser).parse (.before (.ofText text))) ↔
              count = last + 1) ∧
        ((Parser.advance parser).parse (.before (.ofText text))).cursor.source =
          .scanned scanner ∧
        scanner.HasReached text last := by
  obtain ⟨count, runs⟩ :=
    (Parser.advance parser).runs_parse (.before (.ofText text))
  have agree : (Cursor.before (.ofText text)).Agree (count + 0)
      (Cursor.before (.listed (tokenize text))) :=
    ⟨rfl, fun _ _ => rfl⟩
  obtain ⟨listedReply, listedRuns, same, together⟩ := runs.agree agree
  obtain ⟨last, rfl, scanner, source, reached⟩ := runs.hasScanned
  rw [listedRuns.parse_eq]
  refine ⟨same.symm, together.current, last, scanner,
    fun other => ⟨runs.count_eq, ?_⟩, source, reached⟩
  rintro rfl
  exact runs

end MatrixLang
