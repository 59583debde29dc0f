import Mathlib.Data.List.Nodup
import AgentFleet.Model.Container
import AgentFleet.Proofs.Engine.Listing

/-!
Which names on a list are candidates for removal. An execution is looked up among those to be kept
once blanks are trimmed off it, but it is kept as it was given; so what belongs to an execution with
blanks around it is a candidate although the execution is to be kept.
-/

namespace AgentFleet

namespace Text

theorem trimChars_concat {c : Char} (h : isBlank c = true) (cs : List Char) :
    trimChars (cs ++ [c]) = trimChars cs := by
  unfold trimChars trimLeft
  rw [List.dropWhile_append]
  split
  next hempty =>
    rw [List.isEmpty_iff.mp hempty, List.dropWhile_cons_of_pos h]
    rfl
  next => rw [List.reverse_concat, List.dropWhile_cons_of_pos h]

theorem stripReturn_concat (cs : List Char) (c : Char) :
    stripReturn (cs ++ [c]) = if c = '\r' then cs else cs ++ [c] := by
  unfold stripReturn
  rw [List.getLast?_concat]
  split
  next hc =>
    obtain rfl := Option.some.inj hc
    rw [List.dropLast_concat, if_pos rfl]
  next hc => rw [if_neg fun h => hc (congrArg some h)]

theorem trimChars_stripReturn (line : List Char) :
    trimChars (stripReturn line) = trimChars line := by
  rcases List.eq_nil_or_concat line with rfl | ⟨line, c, rfl⟩
  · rfl
  · rw [List.concat_eq_append, stripReturn_concat]
    split
    next hc => rw [hc, trimChars_concat (by decide)]
    next => rfl

/-- What is stripped off a line is behind its first tab. -/
theorem stripReturn_append_tab (cs rest : List Char) :
    stripReturn (cs ++ '\t' :: rest) = cs ++ '\t' :: stripReturn rest := by
  rcases List.eq_nil_or_concat rest with rfl | ⟨rest, c, rfl⟩
  · rw [stripReturn_concat]
    rfl
  · rw [List.concat_eq_append, ← List.cons_append, ← List.append_assoc, stripReturn_concat,
      stripReturn_concat]
    split <;> simp

end Text

namespace Engine

open Text

/-- A row that can be told from its line: the name is not blank, nothing can be trimmed off it and
it holds no tab, and the row stays on one line. -/
structure Listable (r : Row) : Prop where
  name : ¬ IsBlank r.1
  trimmed : trim r.1 = r.1
  tab : '\t' ∉ r.1.toList
  feed : '\n' ∉ r.1.toList ∧ '\n' ∉ r.2.toList

variable {rows : List Row} {r : Row}

theorem labelled_stripReturn (h : Listable r) :
    labelled (String.ofList (stripReturn (printedRow r))) = (r.1, trim r.2) := by
  have hname : String.ofList (trimChars r.1.toList) = r.1 := h.trimmed
  rw [printedRow, stripReturn_append_tab, labelled, String.toList_ofList, splitTab_append h.tab]
  simp only [hname, trimChars_stripReturn, trim]

/-- The candidates of a list are, in its order, the names whose executions are not to be kept once
blanks are trimmed off them. -/
theorem candidates_printed (h : ∀ r ∈ rows, Listable r) (keep : Names) :
    candidates (printed rows) keep = (rows.filter fun r => trim r.2 ∉ keep).map Prod.fst := by
  have hlines : ∀ r ∈ rows, '\n' ∉ printedRow r := by
    intro r hr
    simp [printedRow, (h r hr).feed.1, (h r hr).feed.2]
  rw [candidates, lines_printed_rows hlines, List.filterMap_map, ← List.filterMap_eq_map,
    List.filterMap_filter]
  refine List.filterMap_congr fun r hr => ?_
  have hne : r.1 ≠ "" := fun hempty =>
    (h r hr).name (trim_eq_empty_iff.mp ((h r hr).trimmed.trans hempty))
  simp only [Function.comp, labelled_stripReturn (h r hr), hne, false_or]
  split
  next hyes => simp [hyes]
  next hno => simp [hno]

/-- Where no name stands twice, a name is among the selected ones only if its row is. -/
theorem mem_map_filter_iff (hnodup : (rows.map Prod.fst).Nodup) (hr : r ∈ rows) (p : Row → Bool) :
    r.1 ∈ (rows.filter p).map Prod.fst ↔ p r = true := by
  rw [List.mem_map]
  constructor
  · rintro ⟨r', hr', heq⟩
    obtain ⟨hmem, hp⟩ := List.mem_filter.mp hr'
    rwa [← List.inj_on_of_nodup_map hnodup hmem hr heq]
  · exact fun hp => ⟨r, List.mem_filter.mpr ⟨hr, hp⟩, rfl⟩

/-- The candidates of a list are the names whose executions are not to be kept once blanks are
trimmed off them. So they are the names whose executions are not to be kept if the blanks make no
difference to any execution on the list, and, where no name stands twice, only then. -/
theorem candidates_spare_kept_iff (h : ∀ r ∈ rows, Listable r) (keep : Names) :
    candidates (printed rows) keep = (rows.filter fun r => trim r.2 ∉ keep).map Prod.fst ∧
    ((∀ r ∈ rows, trim r.2 ∈ keep ↔ r.2 ∈ keep) →
      candidates (printed rows) keep = (rows.filter fun r => r.2 ∉ keep).map Prod.fst) ∧
    ((rows.map Prod.fst).Nodup →
      candidates (printed rows) keep = (rows.filter fun r => r.2 ∉ keep).map Prod.fst →
      ∀ r ∈ rows, trim r.2 ∈ keep ↔ r.2 ∈ keep) := by
  have hcandidates := candidates_printed h keep
  refine ⟨hcandidates, fun hsame => ?_, fun hnodup heq r hr => ?_⟩
  · rw [hcandidates]
    refine congrArg (List.map Prod.fst) (List.filter_congr fun r hr => ?_)
    simp only [hsame r hr]
  · rw [hcandidates] at heq
    have hmem : (r.1 ∈ (rows.filter fun r => trim r.2 ∉ keep).map Prod.fst) ↔
        r.1 ∈ (rows.filter fun r => r.2 ∉ keep).map Prod.fst := by rw [heq]
    rw [mem_map_filter_iff hnodup hr, mem_map_filter_iff hnodup hr] at hmem
    simpa using not_congr hmem

/-- Blanks around an execution hide it, whichever of the two forms is to be kept. -/
theorem candidates_spare_kept_iff_padded :
    let rows : List Row :=
      [("agent-1", "e"), ("agent-2", " e "), ("agent-3", "f\r"), ("volume-4", "")]
    let keep : Names := (∅ : Names).insert "e" |>.insert "f\r"
    (∀ r ∈ rows, Listable r) ∧ candidates (printed rows) keep = ["agent-3", "volume-4"] ∧
      candidates (printed rows) keep ≠ (rows.filter fun r => r.2 ∉ keep).map Prod.fst := by
  intro rows keep
  have hrows : ∀ r ∈ rows, Listable r := by
    simp only [rows, List.forall_mem_cons]
    refine ⟨⟨?_, ?_, ?_, ?_⟩, ⟨?_, ?_, ?_, ?_⟩, ⟨?_, ?_, ?_, ?_⟩, ⟨?_, ?_, ?_, ?_⟩, nofun⟩ <;>
      decide +kernel
  obtain ⟨heq, -, hnecessary⟩ := candidates_spare_kept_iff hrows keep
  refine ⟨hrows, heq.trans (by decide +kernel), fun hclaimed => ?_⟩
  have hsame := hnecessary (by decide +kernel) hclaimed ("agent-2", " e ") (by decide +kernel)
  exact absurd (hsame.mp (by decide +kernel)) (by decide +kernel)

/-- A container of an execution that was accepted, and is to be kept, is a candidate. -/
theorem kept_execution_pruned :
    let request : LaunchRequest := ⟨" e ", "default", 1, none, none⟩
    let row : Row := ("agent-1", request.executionId)
    let keep : Names := (∅ : Names).insert request.executionId
    request.check = .ok () ∧ Listable row ∧ row.2 ∈ keep ∧
      candidates (printed [row]) keep = [row.1] := by
  refine ⟨by decide +kernel, ⟨?_, ?_, ?_, ?_⟩, ?_, ?_⟩ <;> decide +kernel

end Engine

end AgentFleet
