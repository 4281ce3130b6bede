import MatrixLang.Proofs.Numerals.Integer
import MatrixLang.Text.Basic

/-!
# Lines

Texts without a line feed, and the line around a place of a text: what stands
before the place since the last line feed and what stands behind it up to the
next one (`Text.nthLine?_count`).
-/

namespace MatrixLang

namespace Text

/-! ## Texts without a line feed -/

/-- A text without a line feed. -/
def IsLine (text : String) : Prop :=
  '\n' ∉ text.toList

instance (text : String) : Decidable (IsLine text) :=
  inferInstanceAs (Decidable ('\n' ∉ text.toList))

@[simp]
theorem isLine_append
    (first second : String) :
    IsLine (first ++ second) ↔ IsLine first ∧ IsLine second := by
  simp [IsLine, not_or]

end Text

theorem Numeral.newline_notMem_toDigits
    (value : Nat) :
    '\n' ∉ Nat.toDigits 10 value := by
  intro member
  exact absurd (isDigit_toDigits member) (by decide)

namespace Text

/-! ## The end of a text -/

/--
What is dropped at the end of a text stands behind the last character that is
kept.
-/
theorem dropTrailing_append_cons
    {drop : Char -> Bool}
    {character : Char}
    (kept : drop character = false)
    (front back : List Char) :
    dropTrailing drop (front ++ character :: back) =
      front ++ character :: dropTrailing drop back := by
  have stopped : (character :: front.reverse).dropWhile drop =
      character :: front.reverse :=
    List.dropWhile_cons_of_neg (by simp [kept])
  rw [dropTrailing, dropTrailing, List.reverse_append, List.reverse_cons,
    List.append_assoc, List.singleton_append, List.dropWhile_append]
  split
  · next empty =>
      rw [stopped, List.isEmpty_iff.1 empty]
      simp
  · simp

/-- The longest run of characters with a property at the end of a text. -/
def trailing (property : Char -> Bool) (text : List Char) : List Char :=
  (text.reverse.takeWhile property).reverse

/-- A text is what is left of it and what is dropped at its end. -/
theorem dropTrailing_append_trailing
    (drop : Char -> Bool)
    (text : List Char) :
    dropTrailing drop text ++ trailing drop text = text := by
  rw [dropTrailing, trailing, ← List.reverse_append,
    List.takeWhile_append_dropWhile, List.reverse_reverse]

theorem of_mem_trailing
    {property : Char -> Bool}
    {text : List Char}
    {character : Char}
    (member : character ∈ trailing property text) : property character = true :=
  List.all_eq_true.1 List.all_takeWhile character (List.mem_reverse.1 member)

/-- No more can be dropped at the end of what is left. -/
theorem of_mem_getLast?_dropTrailing
    {drop : Char -> Bool}
    {text : List Char}
    {character : Char}
    (isLast : character ∈ (dropTrailing drop text).getLast?) :
    drop character = false := by
  rw [dropTrailing, List.getLast?_reverse, Option.mem_def] at isLast
  have stopped := List.head?_dropWhile_not drop text.reverse
  rw [isLast] at stopped
  simpa using stopped

/-! ## The line around a place -/

/-- What stands behind the last line feed of a text. -/
def lastLine (text : List Char) : List Char :=
  trailing (· != '\n') text

/-- A line feed in a text hides what stands before it. -/
theorem lastLine_cons_of_mem
    {text : List Char}
    (feed : '\n' ∈ text)
    (character : Char) : lastLine (character :: text) = lastLine text := by
  have shorter :
      (text.reverse.takeWhile (· != '\n')).length ≠ text.reverse.length := by
    intro whole
    have all := (List.takeWhile_prefix (· != '\n')).eq_of_length whole
    have passed :=
      List.all_eq_true.1 List.all_takeWhile '\n' (all ▸ List.mem_reverse.2 feed)
    simp at passed
  rw [lastLine, lastLine, trailing, trailing, List.reverse_cons,
    List.takeWhile_append, if_neg shorter]

/--
Without a line feed behind it a character is on the last line, unless it is one
itself.
-/
theorem lastLine_cons_of_notMem
    {text : List Char}
    (line : '\n' ∉ text)
    (character : Char) :
    lastLine (character :: text) =
      if character = '\n' then
        lastLine text
      else
        character :: lastLine text := by
  have passed : ∀ other ∈ text.reverse, (other != '\n') = true := by
    intro other member
    rw [List.mem_reverse] at member
    simpa using fun isFeed : other = '\n' => line (isFeed ▸ member)
  have whole : lastLine text = text := by
    have taken := @List.takeWhile_append_of_pos _ _ _ [] passed
    rw [List.append_nil, List.takeWhile_nil, List.append_nil] at taken
    rw [lastLine, trailing, taken, List.reverse_reverse]
  rw [whole, lastLine, trailing, List.reverse_cons,
    List.takeWhile_append_of_pos passed]
  split
  · next isFeed => simp [isFeed]
  · next other => simp [other]

/--
The line around a place: what stands on both sides of it up to a line feed.
-/
def around (before rest : List Char) : List Char :=
  lastLine before ++ rest.takeWhile (· != '\n')

/--
The line around a place has the number of the line feeds in front of the place.
-/
theorem nthLine?_count
    (before rest : List Char) :
    nthLine? (before.count '\n') (before ++ rest) =
      some (around before rest) := by
  unfold around
  induction before with
  | nil => rfl
  | cons character before inductionHypothesis =>
      by_cases feed : character = '\n'
      · have hidden : lastLine (character :: before) = lastLine before := by
          by_cases more : '\n' ∈ before
          · exact lastLine_cons_of_mem more character
          · rw [lastLine_cons_of_notMem more, if_pos feed]
        rw [hidden, feed, List.count_cons_self, ← inductionHypothesis]
        rfl
      · have goesOn : (character != '\n') = true := by simpa using feed
        rw [List.count_cons_of_ne feed, List.cons_append]
        by_cases more : '\n' ∈ before
        · obtain ⟨number, count⟩ := Nat.exists_eq_add_one_of_ne_zero
            (Nat.ne_of_gt (List.count_pos_iff.2 more))
          rw [lastLine_cons_of_mem more, ← inductionHypothesis, count]
          simp only [nthLine?, List.dropWhile_cons, goesOn, if_true]
        · have none : before.count '\n' = 0 := List.count_eq_zero.2 more
          rw [none, nthLine?, Option.some.injEq] at inductionHypothesis
          rw [lastLine_cons_of_notMem more, if_neg feed, none, List.cons_append,
            ← inductionHypothesis]
          simp only [nthLine?, List.takeWhile_cons, goesOn, if_true]

/--
A text has a line with a number counted from one: it stands between two line
feeds or the ends of the text, and the carriage returns behind it do not belong
to it.
-/
def HasLine (text : String) (number : Nat) (line : String) : Prop :=
  ∃ before returns behind : List Char,
    text.toList = before ++ (line.toList ++ (returns ++ behind)) ∧
    number = 1 + before.count '\n' ∧
    (∀ character ∈ before.getLast?, character = '\n') ∧
    IsLine line ∧
    (∀ character ∈ line.toList.getLast?, character ≠ '\r') ∧
    (∀ character ∈ returns, character = '\r') ∧
    ∀ character ∈ behind.head?, character = '\n'

theorem newline_notMem_around
    (before rest : List Char) :
    '\n' ∉ around before rest := by
  rw [around, List.mem_append, not_or]
  constructor
  · intro member
    simpa using of_mem_trailing member
  · intro member
    simpa using List.all_eq_true.1 List.all_takeWhile '\n' member

/-- The line around a place, without the carriage returns at its end. -/
def lineAround (before rest : List Char) : List Char :=
  dropTrailing (· == '\r') (around before rest)

/--
A character that is not blank stands on the line around it, behind what is
before it.
-/
theorem lineAround_cons
    {character : Char}
    (visible : isBlank character = false)
    (before back : List Char) :
    ∃ behind, lineAround before (character :: back) =
      lastLine before ++ character :: behind := by
  have goesOn : (character != '\n') = true := by
    rw [bne_iff_ne]
    rintro rfl
    cases visible
  have kept : (character == '\r') = false := by
    rw [beq_eq_false_iff_ne]
    rintro rfl
    cases visible
  refine ⟨dropTrailing (· == '\r') (back.takeWhile (· != '\n')), ?_⟩
  rw [lineAround, around, List.takeWhile_cons, if_pos goesOn]
  apply dropTrailing_append_cons
  exact kept

theorem newline_notMem_lineAround
    (before rest : List Char) :
    '\n' ∉ lineAround before rest := by
  have noFeed := newline_notMem_around before rest
  rw [← dropTrailing_append_trailing (· == '\r') (around before rest),
    List.mem_append, not_or] at noFeed
  exact noFeed.1

/-- The line around a place is found by its number. -/
theorem lineAt?_eq_lineAround
    {text : String}
    {before rest : List Char}
    {position : Position}
    (parts : text.toList = before ++ rest)
    (number : position.line = 1 + before.count '\n') :
    lineAt? text position = some (String.ofList (lineAround before rest)) := by
  rw [lineAt?, number, Nat.add_sub_cancel_left, parts, nthLine?_count]
  rfl

/-- The line around a place is a line of the text. -/
theorem hasLine_lineAround
    {text : String}
    {before rest : List Char}
    (parts : text.toList = before ++ rest) :
    HasLine text (1 + before.count '\n')
      (String.ofList (lineAround before rest)) := by
  have front := dropTrailing_append_trailing (· != '\n') before
  have line := dropTrailing_append_trailing (· == '\r') (around before rest)
  have noFeed := newline_notMem_around before rest
  refine ⟨dropTrailing (· != '\n') before,
    trailing (· == '\r') (around before rest), rest.dropWhile (· != '\n'), ?_,
    ?_, ?_, ?_, ?_, ?_, ?_⟩
  · calc
      text.toList = (dropTrailing (· != '\n') before ++ lastLine before) ++
          (rest.takeWhile (· != '\n') ++ rest.dropWhile (· != '\n')) := by
        rw [lastLine, front, List.takeWhile_append_dropWhile, parts]
      _ = dropTrailing (· != '\n') before ++
          (around before rest ++ rest.dropWhile (· != '\n')) := by
        simp only [around, List.append_assoc]
      _ = _ := by
        rw [String.toList_ofList, lineAround,
          ← List.append_assoc (dropTrailing (· == '\r') _), line]
  · have last : (lastLine before).count '\n' = 0 :=
      List.count_eq_zero.2 fun member => noFeed (List.mem_append_left _ member)
    rw [← front, List.count_append, front, ← lastLine, last, Nat.add_zero]
  · intro character isLast
    simpa using of_mem_getLast?_dropTrailing isLast
  · rw [IsLine, String.toList_ofList]
    exact newline_notMem_lineAround before rest
  · intro character isLast
    rw [String.toList_ofList] at isLast
    simpa using of_mem_getLast?_dropTrailing isLast
  · intro character member
    simpa using of_mem_trailing member
  · intro character isFirst
    have stopped := List.head?_dropWhile_not (· != '\n') rest
    rw [Option.mem_def.1 isFirst] at stopped
    simpa using stopped

end Text
end MatrixLang
