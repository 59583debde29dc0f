import AgentFleet.Wire.Executions
import AgentFleet.Proofs.Json.Values

/-!
Decoders of known shapes, both ways. What a record's drafts keep from field to field, its values
have; and from the written form of a value each decoder reads the value again, field by field.
-/

namespace AgentFleet.Json.Decoder

open Read

variable {σ α : Type}

/-! ### What is read -/

theorem yields_natural (expected : String) (most depth : Nat) :
    Reader.Yields (natural expected most depth) (· ≤ most) := by
  intro cs n rest h
  unfold natural at h
  split at h
  next =>
    split at h
    next =>
      obtain ⟨x, mid, -, h⟩ := Reader.of_bind_ok h
      split at h
      next =>
        split at h
        next hle =>
          cases h
          exact hle
        next => cases h
      next => cases h
      next => cases h
    next => exact (Reader.mismatch_ne_ok expected h).elim
  next => cases h

theorem yields_variantName {variants : List (String × α)} {P : α → Prop}
    (h : ∀ m ∈ variants, P m.2) : Reader.Yields (variantName variants) P := by
  refine Reader.yields_any.bind fun name _ => ?_
  rw [variantNamed]
  split
  next a hlookup =>
    obtain ⟨before, after, hvariants, -⟩ := List.lookup_eq_some_iff.mp hlookup
    refine Reader.yields_pure (h (name, a) ?_)
    rw [hvariants]
    exact List.mem_append_right before List.mem_cons_self
  next => exact Reader.yields_fail _

/-- What drafts of a record have from the first field to the last, and what its values have for
that. -/
structure Record.Keeps (r : Record σ α) (I : σ → Prop) (P : α → Prop) : Prop where
  empty : I r.empty
  read : ∀ field ∈ r.fields, ∀ depth draft, I draft → Reader.Yields (field.read draft depth) I
  finish : ∀ draft a, I draft → r.finish draft = .ok a → P a

theorem Field.yields_of {name : String} {item : Decoder α} {get : σ → Option α} {put : α → σ → σ}
    {mayEnd : Bool} {depth : Nat} {draft : σ} {Q : α → Prop} {I : σ → Prop}
    (hitem : Reader.Yields (item depth) Q) (hput : ∀ a, Q a → I (put a draft)) :
    Reader.Yields ((Field.of name item get put mayEnd).read draft depth) I :=
  hitem.map hput

namespace Record.Keeps

variable {r : Record σ α} {I : σ → Prop} {P : α → Prop}

theorem finished (h : r.Keeps I P) {draft : σ} (hdraft : I draft) :
    Reader.Yields (r.finished draft) P := by
  unfold Record.finished
  cases hfinish : r.finish draft with
  | ok a => exact Reader.yields_pure (h.finish draft a hdraft hfinish)
  | error m => exact Reader.yields_fail m

theorem byName (h : r.Keeps I P) (depth fuel : Nat) (first : Bool) {draft : σ} (hdraft : I draft) :
    Reader.Yields (r.byName depth fuel first draft) P := by
  induction fuel generalizing first draft with
  | zero => nofun
  | succ fuel ih =>
    refine Reader.yields_any.bind fun name _ => ?_
    cases name with
    | none => exact h.finished hdraft
    | some name =>
      dsimp only
      cases hfind : r.fields.find? (·.name == name) with
      | none =>
        exact Reader.yields_any.bind fun _ _ => Reader.yields_any.bind fun _ _ => ih false hdraft
      | some field =>
        dsimp only
        split
        next => exact Reader.yields_fail _
        next =>
          have hread := h.read field (List.mem_of_find?_eq_some hfind) depth draft hdraft
          exact Reader.yields_any.bind fun _ _ => hread.bind fun draft hdraft => ih false hdraft

theorem ended (h : r.Keeps I P) (fields : List (Field σ)) (seen : Nat) {draft : σ}
    (hdraft : I draft) : Reader.Yields (r.ended fields seen draft) P := by
  induction fields generalizing seen with
  | nil => exact h.finished hdraft
  | cons field fields ih =>
    rw [Record.ended]
    split
    · exact ih (seen + 1)
    · exact Reader.yields_fail _

theorem inOrder (h : r.Keeps I P) (depth : Nat) {fields : List (Field σ)}
    (hfields : ∀ field ∈ fields, field ∈ r.fields) (seen : Nat) {draft : σ} (hdraft : I draft) :
    Reader.Yields (r.inOrder depth fields seen draft) P := by
  induction fields generalizing seen draft with
  | nil =>
    exact (h.finished hdraft).bind fun a ha => Reader.yields_any.bind fun _ _ =>
      Reader.yields_pure ha
  | cons field fields ih =>
    obtain ⟨hfield, hfields⟩ := List.forall_mem_cons.mp hfields
    refine Reader.yields_any.bind fun more _ => ?_
    cases more with
    | true =>
      exact (h.read field hfield depth draft hdraft).bind fun draft hdraft =>
        ih hfields (seen + 1) hdraft
    | false => exact h.ended (field :: fields) seen hdraft

/-- What a record yields has what its drafts give it, in whichever form it is written. -/
theorem record (h : r.Keeps I P) (depth : Nat) : Reader.Yields (Decoder.record r depth) P := by
  intro cs a rest hread
  unfold Decoder.record at hread
  split at hread
  next =>
    exact Reader.Yields.nested (fun below _ => h.inOrder below (fun _ hmem => hmem) 0 h.empty)
      _ _ _ hread
  next =>
    exact Reader.Yields.nested (fun below _ => h.byName below _ true h.empty) _ _ _ hread
  next => exact (Reader.mismatch_ne_ok _ hread).elim

end Record.Keeps

/-- A required field that a value was made with is in the draft. -/
theorem of_required {β : Type} {name : String} {o : Option α} {f : α → Except Wire.Mismatch β}
    {b : β} (h : (required name o >>= f) = .ok b) : ∃ a, o = some a ∧ f a = .ok b := by
  cases o with
  | none => cases h
  | some a => exact ⟨a, rfl, h⟩

theorem of_run {decoder : Decoder α} {P : α → Prop}
    (hyields : Reader.Yields (decoder maxDepth) P) {pieces : List (Option Char)} {a : α}
    (h : run decoder pieces = .ok a) : P a := by
  unfold run at h
  split at h
  next hread =>
    split at h
    next =>
      cases h
      exact hyields _ _ _ hread
    next => cases h
  next => cases h

/-! ### What is written -/

/-- The decoder reads the text of `v` as `a`, whatever closes it. -/
def Decodes (decoder : Decoder α) (depth : Nat) (v : Json) (a : α) : Prop :=
  ∀ rest, Closes rest → decoder depth (v.chars ++ rest) = .ok (a, rest)

theorem text_quoted (expected s : String) (rest : List Char) :
    text expected (quoted s ++ rest) = .ok (s, rest) := by
  rw [quoted_append]
  exact stringBody_escapes s rest

theorem decodes_string (depth : Nat) (s : String) : Decodes string depth (.string s) s := by
  intro rest _
  rw [chars]
  exact text_quoted _ s rest

theorem decodes_natural (expected : String) {n most : Nat} (hn : n ≤ most)
    (hmost : most ≤ maxGathered) (depth : Nat) :
    Decodes (natural expected most) depth (.nat n) n := by
  intro rest hrest
  have hback : n.toUInt64.toNat = n :=
    Nat.mod_eq_of_lt (Nat.lt_of_le_of_lt (Nat.le_trans hn hmost) (by decide))
  have hread := Number.number_text (n := .natural n.toUInt64) trivial trivial hrest
  obtain ⟨c, cs, hcs, hc⟩ := Number.exists_text_cons (n := .natural n.toUInt64) trivial trivial
  rw [nat, chars, hcs, List.cons_append, natural, skipSpace_cons (isSpace_of_startsNumber hc)]
  rw [hcs, List.cons_append] at hread
  dsimp only
  rw [if_pos hc, Reader.bind_ok hread]
  dsimp only
  rw [hback, if_pos hn]
  rfl

theorem decodes_variant {variants : List (String × α)} {name : String} {a : α}
    (h : variants.lookup name = some a) (depth : Nat) :
    Decodes (variant variants) depth (.string name) a := by
  intro rest _
  have hname : text "variant identifier" (quoted name ++ rest) = .ok (name, rest) :=
    text_quoted _ name rest
  rw [chars]
  rw [quoted_append] at hname ⊢
  change variantName variants _ = _
  rw [variantName, Reader.bind_ok hname, variantNamed, h]
  rfl

theorem doubleFree_optionalString (s : Option String) : (optionalString s).DoubleFree := by
  cases s with
  | none => exact .null
  | some s => exact .string s

theorem decodes_optionalString (s : Option String) (depth : Nat) :
    Decodes (optional string) depth (optionalString s) s := by
  intro rest _
  cases s with
  | none => rfl
  | some s =>
    have hread := text_quoted "a string" s rest
    rw [optionalString, chars]
    rw [quoted_append] at hread ⊢
    exact Reader.map_ok hread

theorem decodes_map {item : Decoder α} {write : α → Json} {depth : Nat} {l : List (String × α)}
    (h : ∀ m ∈ l, Decodes item depth (write m.2) m.2) :
    Decodes (map item) (depth + 1) (.object (l.map fun (name, a) => (name, write a))) l := by
  intro rest _
  have hparts : (l.map fun (name, a) => (name, write a)).map (memberText chars) =
      l.map (memberText fun a => (write a).chars) := by
    rw [List.map_map]
    rfl
  have hread : membersOf (item depth)
      (separated (l.map (memberText fun a => (write a).chars)) ++ '\x7d' :: rest) =
        .ok (l, rest) := membersOf_separated h rest
  rw [chars_object_append, hparts]
  exact hread

/-- From a draft, the fields with the given names and values bring another draft. -/
inductive Record.Fills (r : Record σ α) (depth : Nat) : σ → List (String × Json) → σ → Prop where
  | nil (draft : σ) : Record.Fills r depth draft [] draft
  | cons {draft next last : σ} {name : String} {v : Json} {members : List (String × Json)}
    (field : Field σ) (hfind : r.fields.find? (·.name == name) = some field)
    (hhas : field.has draft = false) (hread : Decodes (field.read draft) depth v next)
    (hrest : Record.Fills r depth next members last) :
    Record.Fills r depth draft ((name, v) :: members) last

theorem Record.Fills.field {r : Record σ α} {depth : Nat} {draft last : σ} {name : String}
    {v : Json} {members : List (String × Json)} {β : Type} {item : Decoder β} {get : σ → Option β}
    {put : β → σ → σ} {mayEnd : Bool} {b : β}
    (hfind : r.fields.find? (·.name == name) = some (.of name item get put mayEnd))
    (hget : get draft = none) (hread : Decodes item depth v b)
    (hrest : r.Fills depth (put b draft) members last) :
    r.Fills depth draft ((name, v) :: members) last :=
  .cons _ hfind (Option.isSome_eq_false_iff.mpr (Option.isNone_iff_eq_none.mpr hget))
    (fun rest hclose => Reader.map_ok (hread rest hclose)) hrest

theorem Record.Fills.byName {r : Record σ α} {depth : Nat} {draft last : σ}
    {members : List (String × Json)} {a : α} (h : r.Fills depth draft members last)
    (hfinish : r.finish last = .ok a) {fuel : Nat} (hfuel : members.length < fuel) (first : Bool)
    (rest : List Char) :
    r.byName depth fuel first draft
      (listed first (members.map (memberText chars)) ++ '\x7d' :: rest) = .ok (a, rest) := by
  -- The induction follows the fields; `first` tells only whether a comma comes before the next.
  induction h generalizing fuel first with
  | nil draft =>
    obtain ⟨fuel, rfl⟩ := Nat.exists_eq_succ_of_ne_zero (Nat.ne_zero_of_lt hfuel)
    change r.finished draft rest = _
    rw [Record.finished, hfinish]
    rfl
  | @cons draft next last name v members field hfind hhas hread hrest ih =>
    obtain ⟨fuel, rfl⟩ := Nat.exists_eq_succ_of_ne_zero (Nat.ne_zero_of_lt hfuel)
    have hclose := closes_listed (members.map (memberText chars)) (.inr rfl) rest
    rw [List.map_cons, Record.byName, memberText, Reader.bind_ok (nextName_listed first _ _ _ _)]
    dsimp only
    rw [hfind]
    dsimp only
    rw [hhas, if_neg Bool.false_ne_true, Reader.bind_ok (symbol_cons rfl _),
      Reader.bind_ok (hread _ hclose)]
    exact ih hfinish (Nat.lt_of_succ_lt_succ hfuel) false

theorem Record.Fills.decodes {r : Record σ α} {depth : Nat} {last : σ}
    {members : List (String × Json)} {a : α} (h : r.Fills depth r.empty members last)
    (hfinish : r.finish last = .ok a) : Decodes (record r) (depth + 1) (.object members) a := by
  intro rest _
  rw [chars_object_append, separated_eq_listed]
  exact h.byName hfinish (length_lt_members chars members _) true rest

/-- A whole text that is written for a value without doubles is decoded as what its characters are
read as. -/
theorem decode_text {decoder : Decoder α} {v : Json} {a : α} (hfree : v.DoubleFree)
    (h : Decodes decoder maxDepth v a) : decode decoder v.text = .ok a := by
  have hread := h [] closes_nil
  rw [List.append_nil] at hread
  rw [decode, run, source_text hfree, hread]
  rfl

end AgentFleet.Json.Decoder
