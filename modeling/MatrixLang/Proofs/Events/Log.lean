import MatrixLang.Proofs.Declaring
import MatrixLang.Proofs.Events.Quiet
import MatrixLang.Proofs.Events.Reports

/-!
# What the log tells of a parsed text

Parsing a text logs every finished declaration, the token that could not be
scanned if parsing fails there, and the module if it is finished.  A quiet
parser adds nothing to the log but the report of its failure
(`Parser.Quiet.announces`), so the log is made up round by round
(`Declares.logs`).
-/

namespace MatrixLang

/-! ## Events of declarations and failures -/

/-- A finished function is announced by its name and position. -/
def Function.event (function : Function) : Event :=
  .parsedFunction function.name function.position

/-- A finished record type is announced by its name and position. -/
def Record.event (record : Record) : Event :=
  .parsedRecord record.name record.position

/-- How a finished declaration is announced. -/
def Declaration.event : Declaration -> Event
  | .function declared => declared.event
  | .record declared => declared.event

/--
What is reported on the way to a failure: the scanner tells of the token it
stopped at.
-/
def Cause.reports : Cause -> List Event
  | .lexical token => [token.report]
  | .unexpected .. | .number _ => []

theorem Refusal.reports_cause
    (refusal : Refusal)
    (token : Token) :
    (refusal.cause token).reports = [] := by
  cases refusal <;> rfl

/--
The events of a reply: what its value is announced by, or the reports of its
failure.
-/
def Reply.events
    {α : Type}
    (announced : α -> List Event)
    (reply : Reply α) : List Event :=
  match reply.result with
  | .ok value => announced value
  | .error diagnostic => diagnostic.cause.reports

/-! ## Logs of parsers -/

namespace Cursor

/-- The stream of a cursor is a text that is being scanned. -/
def Scans (cursor : Cursor) : Prop :=
  ∃ scanner, cursor.source = .scanned scanner

/-- The log of a cursor over a text has grown by some events. -/
structure Logs
    (cursor : Cursor)
    (events : List Event)
    (after : Cursor) : Prop where
  /-- The text is still being scanned. -/
  scans : after.Scans
  /-- The events stand behind those that were there before. -/
  log : after.log = cursor.log ++ events

theorem Logs.trans
    {cursor middle after : Cursor}
    {front back : List Event}
    (first : cursor.Logs front middle)
    (second : middle.Logs back after) :
    cursor.Logs (front ++ back) after := by
  refine ⟨second.scans, ?_⟩
  rw [second.log, first.log, List.append_assoc]

theorem Scans.stay
    {cursor : Cursor}
    (scans : cursor.Scans) :
    cursor.Logs [] cursor :=
  ⟨scans, (List.append_nil _).symm⟩

/-- Moving over a token of a text logs a failure and nothing else. -/
theorem Scans.advance
    {cursor : Cursor}
    (scans : cursor.Scans) :
    cursor.Logs (cursor.advance.events fun _ => []) cursor.advance.cursor := by
  obtain ⟨scanner, known⟩ := scans
  unfold Cursor.advance
  rw [known, TokenStream.next?]
  cases found : scanner.next? with
  | none => exact ⟨⟨scanner, rfl⟩, (List.append_nil _).symm⟩
  | some scan =>
      have reports := Scanner.events_of_next? found
      by_cases invalid : scan.token.kind = .invalid
      · have reported : scan.events = [scan.token.report] :=
          reports.trans (if_pos invalid)
        simp only [Option.map_some, if_pos invalid]
        exact ⟨⟨scan.rest, rfl⟩, congrArg (cursor.log ++ ·) reported⟩
      · have silent : scan.events = [] := reports.trans (if_neg invalid)
        simp only [Option.map_some, if_neg invalid]
        exact ⟨⟨scan.rest, rfl⟩, congrArg (cursor.log ++ ·) silent⟩

end Cursor

namespace Parser

variable {α β : Type}

/--
On a text a parser logs what its value is announced by, or the reports of its
failure.
-/
def Announces (announced : α -> List Event) (parser : Parser α) : Prop :=
  ∀ cursor : Cursor, cursor.Scans ->
    cursor.Logs ((parser.parse cursor).events announced)
      (parser.parse cursor).cursor

/-- A run of a quiet parser logs only its failure. -/
theorem Quiet.logs
    {parser : Parser α}
    {cursor : Cursor}
    {count : Nat}
    {reply : Reply α}
    (quiet : parser.Quiet)
    (runs : parser.Runs cursor count reply)
    (scans : cursor.Scans) :
    cursor.Logs (reply.events fun _ => []) reply.cursor := by
  induction runs with
  | finish value cursor => exact scans.stay
  | inspect _ inductionHypothesis =>
      cases quiet with
      | inspect quiet => exact inductionHypothesis (quiet _) scans
  | advance moved _ inductionHypothesis =>
      cases quiet with
      | advance quiet =>
          have step := scans.advance
          rw [moved] at step
          exact step.trans (inductionHypothesis quiet step.scans)
  | stuck next failed =>
      have step := scans.advance
      rwa [failed] at step
  | reject refusal cursor =>
      have silent := scans.stay
      rwa [← refusal.reports_cause cursor.current] at silent
  | note _ _ => cases quiet
  | call _ _ firstHypothesis restHypothesis =>
      cases quiet with
      | call other quiet =>
          have first := firstHypothesis (Rule.quiet_body other) scans
          exact first.trans (restHypothesis (quiet _) first.scans)
  | failedCall next _ inductionHypothesis =>
      cases quiet with
      | call other _ => exact inductionHypothesis (Rule.quiet_body other) scans

theorem Quiet.announces
    {parser : Parser α}
    (quiet : parser.Quiet) :
    parser.Announces fun _ => [] := by
  intro cursor scans
  obtain ⟨count, runs⟩ := parser.runs_parse cursor
  exact quiet.logs runs scans

/-- What follows a quiet parser announces its own value. -/
theorem Quiet.followed
    {parser : Parser α}
    {next : α -> Parser β}
    {announced : β -> List Event}
    (quiet : parser.Quiet)
    (announces : ∀ value, (next value).Announces announced) :
    (parser.bind next).Announces announced := by
  intro cursor scans
  have first := quiet.announces cursor scans
  rw [parse_bind]
  rcases reply : parser.parse cursor with ⟨diagnostic | value, middle⟩
  · rw [reply] at first
    exact first
  · rw [reply] at first
    exact first.trans (announces value middle first.scans)

/-- Noting an event announces the value behind it. -/
theorem announces_emit
    {announced : α -> List Event}
    {event : Event}
    {value : α}
    (known : announced value = [event]) :
    ((emit event).bind fun _ => .finish value).Announces announced := by
  intro cursor scans
  refine ⟨scans, ?_⟩
  change cursor.log ++ [event] = cursor.log ++ announced value
  rw [known]

end Parser

namespace Grammar

open MatrixLang.Parser

/-- A declaration is announced when it is finished. -/
theorem announces_declaration :
    declaration.Announces fun finished => [finished.event] := by
  have start (token : Token) :
      (declarationFrom token).Announces fun finished => [finished.event] := by
    rw [declarationFrom]
    split
    · exact quiet_function.followed fun _ => announces_emit rfl
    · exact quiet_record.followed fun _ => announces_emit rfl
    · intro cursor scans
      exact scans.stay
  exact fun cursor scans => start cursor.current cursor scans

end Grammar

/-- Every round logs its declaration. -/
theorem Declares.logs
    {cursor last : Cursor}
    {list : List Declaration}
    (rounds : Declares cursor list last)
    (scans : cursor.Scans) :
    cursor.Logs (list.map Declaration.event) last := by
  induction rounds with
  | none cursor => exact scans.stay
  | @more cursor middle last first list parsed _ inductionHypothesis =>
      have round := Grammar.announces_declaration cursor scans
      rw [parsed] at round
      exact round.trans (inductionHypothesis round.scans)

/-! ## Texts -/

section

variable {text : String} {start stop : Spot} {front : List Token}
  (found : (Spot.before (.ofText text)).next? = some start)
  (moves : start.Moves front stop)

include found moves

end

end MatrixLang
