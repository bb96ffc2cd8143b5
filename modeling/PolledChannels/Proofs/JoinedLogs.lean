import PolledChannels.Proofs.SinkLogs

/-!
# Logs put together

Two texts are put into one file, with a line end between them. The lines of the first text
stay where they are, and those of the second come after them: each moves down by the line
ends before it. So the file is validated as its two halves are, with the violations of the
second half further down.

A text that ends with a line end, or is empty, has a last line that is blank once another text
follows it. Blank lines count as lines of the file and are passed over.
-/

namespace PolledChannels

namespace Text

theorem linesFrom_append (taken a b : List Char) :
    linesFrom taken (a ++ '\n' :: b) = linesFrom taken (a ++ ['\n']) ++ lines b := by
  induction a generalizing taken with
  | nil => simp [linesFrom, lines]
  | cons c cs ih =>
    simp only [List.cons_append, linesFrom]
    split
    · rw [ih, List.cons_append]
    · exact ih _

/-- A text that is ended by a line end has a line for each of its line ends and one more. -/
theorem length_linesFrom (taken a : List Char) :
    (linesFrom taken (a ++ ['\n'])).length = 1 + a.count '\n' := by
  induction a generalizing taken with
  | nil => simp [linesFrom]
  | cons c cs ih =>
    simp only [List.cons_append, linesFrom]
    split
    · next hend => simp [hend, ih, Nat.add_assoc]
    · next hother => rw [ih, List.count_cons_of_ne hother]

/-- A line end after a text ends its last line, or makes one more line that is empty. -/
theorem linesFrom_concat (taken a : List Char) :
    linesFrom taken (a ++ ['\n']) = linesFrom taken a ∨
      linesFrom taken (a ++ ['\n']) = linesFrom taken a ++ [[]] := by
  induction a generalizing taken with
  | nil =>
    cases taken with
    | nil => exact .inr rfl
    | cons c cs => exact .inl (by simp [linesFrom])
  | cons c cs ih =>
    simp only [List.cons_append, linesFrom]
    split
    · exact (ih []).imp (congrArg _) (congrArg _)
    · exact ih _

end Text

namespace Log

/-- The violation, some lines further down. -/
def Violation.below (lines : Nat) (v : Violation) : Violation :=
  { v with line := v.line + lines }

section Lines

variable (number : Nat)

/-- What is wrong with a line does not depend on where it stands. -/
theorem validateLine_add (line : String) (offset : Nat) :
    validateLine line (number + offset) =
      (validateLine line number).mapError fun found => found.map (Violation.below offset) := by
  unfold validateLine
  cases checkLine line with
  | ok e => rfl
  | error found =>
    refine congrArg Except.error ?_
    simp [Violation.below]

/-- Lines that stand further down have their violations further down. -/
theorem validateLines_add (ls : List (List Char)) (offset : Nat) :
    validateLines (number + offset) ls =
      ((validateLines number ls).1, (validateLines number ls).2.map (Violation.below offset)) := by
  induction ls generalizing number with
  | nil => rfl
  | cons l ls ih =>
    have hrest := ih (number + 1)
    rw [Nat.add_right_comm] at hrest
    simp only [validateLines, hrest]
    cases Text.strip l with
    | nil => rfl
    | cons c cs =>
      dsimp only
      rw [validateLine_add]
      cases validateLine (String.ofList (c :: cs)) number with
      | ok e => rfl
      | error found => exact Prod.ext rfl List.map_append.symm

/-- Lines after lines: the counts add up, and the violations follow each other. -/
theorem validateLines_append (ls ms : List (List Char)) :
    validateLines number (ls ++ ms) =
      ((validateLines number ls).1 + (validateLines (number + ls.length) ms).1,
        (validateLines number ls).2 ++ (validateLines (number + ls.length) ms).2) := by
  induction ls generalizing number with
  | nil => simp [validateLines]
  | cons l ls ih =>
    have hrest := ih (number + 1)
    rw [Nat.add_right_comm, Nat.add_assoc number] at hrest
    simp only [List.cons_append, validateLines, hrest, List.length_cons]
    cases Text.strip l with
    | nil => rfl
    | cons c cs =>
      dsimp only
      cases validateLine (String.ofList (c :: cs)) number with
      | ok e => simp [Nat.add_right_comm]
      | error found => simp [Nat.add_right_comm]

theorem validateLines_concat (a : List Char) :
    validateLines number (Text.lines (a ++ ['\n'])) = validateLines number (Text.lines a) := by
  have hblank (n : Nat) : validateLines n [[]] = (0, []) := rfl
  rcases Text.linesFrom_concat [] a with hsame | hmore
  · rw [Text.lines, hsame, Text.lines]
  · rw [Text.lines, hmore, validateLines_append, hblank, List.append_nil]
    rfl

end Lines

/-- Two texts with a line end between them: the lines of both are counted, and the violations of the
first are followed by those of the second, moved down by the line ends before them. -/
theorem validateFile_joined (a b : String) :
    validateFile (a ++ "\n" ++ b) =
      ((validateFile a).1 + (validateFile b).1,
        (validateFile a).2 ++ (validateFile b).2.map
          (Violation.below (1 + a.toList.count '\n'))) := by
  have htext : (a ++ "\n" ++ b).toList = a.toList ++ '\n' :: b.toList := by simp
  have hlines : Text.lines (a ++ "\n" ++ b).toList =
      Text.lines (a.toList ++ ['\n']) ++ Text.lines b.toList := by
    rw [htext]
    exact Text.linesFrom_append [] _ _
  have hlength : (Text.lines (a.toList ++ ['\n'])).length = 1 + a.toList.count '\n' :=
    Text.length_linesFrom [] _
  rw [validateFile, hlines, validateLines_append, hlength, validateLines_add, validateLines_concat]
  rfl

theorem validateBytes_text (s : String) : validateBytes (some s.toUTF8) = .ok (validateFile s) := by
  rw [validateBytes, fromUTF8?_toUTF8]

/-- Files that hold text are validated, and a file that holds two texts with a line end between them
is validated as they are, one after the other. -/
theorem joined_files_validate (a b : String) :
    ∃ na ea nb eb, validateBytes (some a.toUTF8) = .ok (na, ea) ∧
      validateBytes (some b.toUTF8) = .ok (nb, eb) ∧
      validateBytes (some (a ++ "\n" ++ b).toUTF8) =
        .ok (na + nb, ea ++ eb.map (Violation.below (1 + a.toList.count '\n'))) := by
  refine ⟨(validateFile a).1, (validateFile a).2, (validateFile b).1, (validateFile b).2,
    validateBytes_text a, validateBytes_text b, ?_⟩
  rw [validateBytes_text, validateFile_joined]

end Log
end PolledChannels
