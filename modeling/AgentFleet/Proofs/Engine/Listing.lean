import AgentFleet.Engine.Listing

/-!
Lists as the engine prints them, one line for each name with its execution, and what is read from
them. If neither holds what ends a line or a column, then just those names are candidates whose
executions are not to be kept.
-/

namespace AgentFleet

namespace Text

theorem linesFrom_append {cs : List Char} (h : '\n' ∉ cs) (line rest : List Char) :
    linesFrom line (cs ++ '\n' :: rest) =
      stripReturn (line.reverse ++ cs) :: linesFrom [] rest := by
  induction cs generalizing line with
  | nil => simp [linesFrom]
  | cons c cs ih =>
    rw [List.mem_cons, not_or] at h
    simp [linesFrom, Ne.symm h.1, ih h.2]

theorem trimLeft_of_not_blank {cs : List Char} (h : ∀ c ∈ cs, isBlank c = false) :
    trimLeft cs = cs := by
  cases cs with
  | nil => rfl
  | cons c cs => simp [trimLeft, h c]

theorem trim_of_not_blank {s : String} (h : ∀ c ∈ s.toList, isBlank c = false) : trim s = s := by
  have hback : ∀ c ∈ s.toList.reverse, isBlank c = false := by simpa using h
  simp [trim, trimChars, trimLeft_of_not_blank h, trimLeft_of_not_blank hback]

end Text

namespace Engine

open Text

abbrev Row := String × String

def printedRow (r : Row) : List Char := r.1.toList ++ '\t' :: r.2.toList

def printed (rows : List Row) : String :=
  String.ofList (rows.flatMap fun r => printedRow r ++ ['\n'])

/-- Neither the name nor the execution holds what ends a column or a line. -/
structure Printable (r : Row) : Prop where
  name : '\t' ∉ r.1.toList ∧ '\n' ∉ r.1.toList
  execution : '\n' ∉ r.2.toList ∧ '\r' ∉ r.2.toList

theorem splitTab_append {cs : List Char} (h : '\t' ∉ cs) (rest : List Char) :
    splitTab (cs ++ '\t' :: rest) = (cs, rest) := by
  induction cs with
  | nil => simp [splitTab]
  | cons c cs ih =>
    rw [List.mem_cons, not_or] at h
    simp [splitTab, Ne.symm h.1, ih h.2]

theorem stripReturn_printedRow {r : Row} (h : Printable r) :
    stripReturn (printedRow r) = printedRow r := by
  unfold stripReturn
  split
  next hlast =>
    rw [printedRow, List.getLast?_append, List.getLast?_cons, Option.some_or] at hlast
    have hmem := List.mem_of_getLast? (List.getLast?_cons.trans hlast)
    simp [h.execution.2] at hmem
  next => rfl

theorem lines_printed_rows {rows : List Row} (h : ∀ r ∈ rows, '\n' ∉ printedRow r) :
    lines (printed rows) = rows.map fun r => String.ofList (stripReturn (printedRow r)) := by
  unfold lines printed
  rw [String.toList_ofList]
  induction rows with
  | nil => rfl
  | cons r rows ih =>
    obtain ⟨hline, hrows⟩ := List.forall_mem_cons.mp h
    rw [List.flatMap_cons, List.append_assoc, List.singleton_append, linesFrom_append hline]
    simp [ih hrows]

theorem lines_printed {rows : List Row} (h : ∀ r ∈ rows, Printable r) :
    lines (printed rows) = rows.map fun r => String.ofList (printedRow r) := by
  have hlines : ∀ r ∈ rows, '\n' ∉ printedRow r := by
    intro r hr
    simp [printedRow, (h r hr).name.2, (h r hr).execution.1]
  rw [lines_printed_rows hlines]
  exact List.map_congr_left fun r hr => by rw [stripReturn_printedRow (h r hr)]

theorem labelled_printedRow {r : Row} (h : Printable r) :
    labelled (String.ofList (printedRow r)) = (trim r.1, trim r.2) := by
  simp [labelled, printedRow, splitTab_append h.name.1, trim]

theorem mem_candidates_printed {rows : List Row} (h : ∀ r ∈ rows, Printable r) {keep : Names}
    {name : String} :
    name ∈ candidates (printed rows) keep ↔
      ∃ r ∈ rows, trim r.1 = name ∧ name ≠ "" ∧ trim r.2 ∉ keep := by
  unfold candidates
  rw [lines_printed h, List.filterMap_map, List.mem_filterMap]
  refine exists_congr fun r => and_congr_right fun hr => ?_
  simp only [Function.comp, labelled_printedRow (h r hr)]
  split
  next hno => grind
  next hyes => grind

end Engine

end AgentFleet
