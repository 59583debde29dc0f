import AgentFleet.Proofs.Json.Sequences

/-!
Values and their texts. What is read is well-formed: not nested too deeply, and with the members of
each object in the ascending order of their names. The text of a well-formed value without doubles
is read as that value again.
-/

namespace AgentFleet.Json

open Read

abbrev Ascending (members : List (String × Json)) : Prop :=
  members.Pairwise fun m n => compare m.1 n.1 = .lt

/-- A value that may be read where sequences and maps may be nested `depth` deep. -/
inductive WellFormed : Nat → Json → Prop where
  | null {depth : Nat} : WellFormed depth .null
  | bool {depth : Nat} (b : Bool) : WellFormed depth (.bool b)
  | number {depth : Nat} {n : Number} (h : n.IsProper) : WellFormed depth (.number n)
  | string {depth : Nat} (s : String) : WellFormed depth (.string s)
  | array {depth : Nat} {elements : List Json} (h : ∀ v ∈ elements, WellFormed depth v) :
    WellFormed (depth + 1) (.array elements)
  | object {depth : Nat} {members : List (String × Json)}
    (ascending : Ascending members) (h : ∀ m ∈ members, WellFormed depth m.2) :
    WellFormed (depth + 1) (.object members)

/-- No number inside the value is a double. -/
inductive DoubleFree : Json → Prop where
  | null : DoubleFree .null
  | bool (b : Bool) : DoubleFree (.bool b)
  | number {n : Number} (h : n.IsInteger) : DoubleFree (.number n)
  | string (s : String) : DoubleFree (.string s)
  | array {elements : List Json} (h : ∀ v ∈ elements, DoubleFree v) : DoubleFree (.array elements)
  | object {members : List (String × Json)} (h : ∀ m ∈ members, DoubleFree m.2) :
    DoubleFree (.object members)

/-! ### Members in order -/

theorem mem_insertMember {name : String} {v : Json} {members : List (String × Json)}
    {m : String × Json} (h : m ∈ insertMember name v members) : m = (name, v) ∨ m ∈ members := by
  induction members with
  | nil => exact .inl (List.mem_singleton.mp h)
  | cons n members ih =>
    rw [insertMember] at h
    split at h
    · exact List.mem_cons.mp h
    · exact (List.mem_cons.mp h).imp_right (List.mem_cons_of_mem n)
    · rcases List.mem_cons.mp h with rfl | h
      · exact .inr List.mem_cons_self
      · exact (ih h).imp_right (List.mem_cons_of_mem n)

theorem ascending_insertMember (name : String) (v : Json) {members : List (String × Json)}
    (h : Ascending members) : Ascending (insertMember name v members) := by
  induction members with
  | nil => exact List.pairwise_singleton _ _
  | cons n members ih =>
    obtain ⟨hn, hmembers⟩ := List.pairwise_cons.mp h
    rw [insertMember]
    split
    next hlt =>
      refine List.pairwise_cons.mpr ⟨List.forall_mem_cons.mpr ⟨hlt, fun m hm => ?_⟩, h⟩
      exact Std.TransCmp.lt_trans hlt (hn m hm)
    next heq =>
      obtain rfl := Std.LawfulEqCmp.eq_of_compare heq
      exact List.pairwise_cons.mpr ⟨hn, hmembers⟩
    next hgt =>
      refine List.pairwise_cons.mpr ⟨fun m hm => ?_, ih hmembers⟩
      rcases mem_insertMember hm with rfl | hm
      · exact Std.OrientedCmp.gt_iff_lt.mp hgt
      · exact hn m hm

theorem insertMember_last {name : String} (v : Json) {members : List (String × Json)}
    (h : ∀ m ∈ members, compare m.1 name = .lt) :
    insertMember name v members = members ++ [(name, v)] := by
  induction members with
  | nil => rfl
  | cons n members ih =>
    obtain ⟨hn, hmembers⟩ := List.forall_mem_cons.mp h
    rw [insertMember, Std.OrientedCmp.gt_iff_lt.mpr hn]
    exact congrArg (n :: ·) (ih hmembers)

theorem foldl_insertMember {members acc : List (String × Json)} (h : Ascending (acc ++ members)) :
    members.foldl (fun acc (n, v) => insertMember n v acc) acc = acc ++ members := by
  induction members generalizing acc with
  | nil => simp
  | cons m members ih =>
    obtain ⟨name, v⟩ := m
    have hlast : ∀ n ∈ acc, compare n.1 name = .lt := fun n hn =>
      (List.pairwise_append.mp h).2.2 n hn _ List.mem_cons_self
    rw [List.foldl_cons]
    dsimp only
    rw [insertMember_last v hlast, ih]
    · simp
    · simpa using h

theorem ofMembers_of_ascending {members : List (String × Json)} (h : Ascending members) :
    ofMembers members = .object members :=
  congrArg Json.object (foldl_insertMember h)

theorem wellFormed_ofMembers {depth : Nat} {members : List (String × Json)}
    (h : ∀ m ∈ members, WellFormed depth m.2) : WellFormed (depth + 1) (ofMembers members) := by
  have hfold : ∀ acc, Ascending acc → (∀ m ∈ acc, WellFormed depth m.2) →
      Ascending (members.foldl (fun acc (n, v) => insertMember n v acc) acc) ∧
        ∀ m ∈ members.foldl (fun acc (n, v) => insertMember n v acc) acc, WellFormed depth m.2 := by
    induction members with
    | nil => exact fun acc hasc hacc => ⟨hasc, hacc⟩
    | cons m members ih =>
      intro acc hasc hacc
      obtain ⟨hm, hmembers⟩ := List.forall_mem_cons.mp h
      refine ih hmembers _ (ascending_insertMember m.1 m.2 hasc) fun n hn => ?_
      rcases mem_insertMember hn with rfl | hn
      · exact hm
      · exact hacc n hn
  obtain ⟨hasc, hacc⟩ := hfold [] List.Pairwise.nil nofun
  exact .object hasc hacc

/-! ### What is read -/

theorem yields_value_of {depth : Nat}
    (ih : ∀ below, depth = below + 1 → Reader.Yields (value below) (WellFormed below)) :
    Reader.Yields (value depth) (WellFormed depth) := by
  intro cs v rest h
  unfold value at h
  split at h
  next => cases h
  next =>
    obtain rfl := Reader.yields_word _ _ _ _ _ h
    exact .null
  next =>
    obtain rfl := Reader.yields_word _ _ _ _ _ h
    exact .bool true
  next =>
    obtain rfl := Reader.yields_word _ _ _ _ _ h
    exact .bool false
  next =>
    obtain ⟨s, -, rfl⟩ := Reader.of_map_ok h
    exact .string s
  next =>
    split at h
    next below =>
      obtain ⟨elements, helements, rfl⟩ := Reader.of_map_ok h
      exact .array ((ih below rfl).elementsOf _ _ _ helements)
    next => cases h
  next =>
    split at h
    next below =>
      obtain ⟨members, hmembers, rfl⟩ := Reader.of_map_ok h
      exact wellFormed_ofMembers ((ih below rfl).membersOf _ _ _ hmembers)
    next => cases h
  next =>
    split at h
    next =>
      obtain ⟨n, hn, rfl⟩ := Reader.of_map_ok h
      exact .number (Number.yields_number _ _ _ hn)
    next => cases h

theorem yields_value (depth : Nat) : Reader.Yields (value depth) (WellFormed depth) := by
  -- Only sequences and maps reach a lower depth, so all cases are in the lemma on one depth.
  induction depth with
  | zero => exact yields_value_of nofun
  | succ depth ih =>
    refine yields_value_of ?_
    rintro below ⟨⟩
    exact ih

/-! ### What is written -/

theorem elementChars_eq (elements : List Json) : elementChars elements = elements.map chars := by
  induction elements with
  | nil => rfl
  | cons v elements ih => rw [elementChars, ih, List.map_cons]

theorem memberChars_eq (members : List (String × Json)) :
    memberChars members = members.map (memberText chars) := by
  induction members with
  | nil => rfl
  | cons m members ih =>
    obtain ⟨name, v⟩ := m
    rw [memberChars, ih, List.map_cons, memberText]

theorem chars_array_append (elements : List Json) (rest : List Char) :
    (array elements).chars ++ rest = '[' :: (separated (elements.map chars) ++ ']' :: rest) := by
  simp [chars, elementChars_eq]

theorem chars_object_append (members : List (String × Json)) (rest : List Char) :
    (object members).chars ++ rest =
      '\x7b' :: (separated (members.map (memberText chars)) ++ '\x7d' :: rest) := by
  simp [chars, memberChars_eq]

theorem starts_chars {depth : Nat} {v : Json} (h : WellFormed depth v) (hfree : v.DoubleFree) :
    Starts v.chars := by
  cases h with
  | null => exact ⟨'n', _, rfl, rfl, by decide⟩
  | bool b => cases b <;> exact ⟨_, _, rfl, rfl, by decide⟩
  | number hn =>
    cases hfree with
    | number hint =>
      obtain ⟨c, cs, hcs, hc⟩ := Number.exists_text_cons hn hint
      refine ⟨c, cs, hcs, isSpace_of_startsNumber hc, ?_⟩
      rintro rfl
      cases hc
  | string s => exact ⟨'"', _, rfl, rfl, by decide⟩
  | array h => exact ⟨'[', _, rfl, rfl, by decide⟩
  | object ascending h => exact ⟨'\x7b', _, rfl, rfl, by decide⟩

theorem value_number {n : Number} (hn : n.IsProper) (hint : n.IsInteger) (depth : Nat)
    {rest : List Char} (h : Closes rest) :
    value depth (n.text.toList ++ rest) = .ok (.number n, rest) := by
  have hread := Reader.map_ok (g := Json.number) (Number.number_text hn hint h)
  obtain ⟨c, cs, hcs, hc⟩ := Number.exists_text_cons hn hint
  rw [hcs, List.cons_append] at hread ⊢
  unfold value
  rw [skipSpace_cons (isSpace_of_startsNumber hc)]
  split
  case h_1 heq => cases heq
  case h_8 heq =>
    obtain ⟨rfl, rfl⟩ := List.cons.inj heq
    rw [if_pos hc]
    exact hread
  all_goals
    obtain ⟨rfl, -⟩ := List.cons.inj ‹_›
    cases hc

theorem value_chars {depth : Nat} {v : Json} (h : WellFormed depth v) (hfree : v.DoubleFree)
    {rest : List Char} (hrest : Closes rest) :
    value depth (v.chars ++ rest) = .ok (v, rest) := by
  -- Inside a sequence or a map more follows an element than `rest`: the induction is for any rest.
  induction h generalizing rest with
  | null =>
    unfold value
    rfl
  | bool b =>
    unfold value
    cases b <;> rfl
  | number h =>
    cases hfree with
    | number hint => exact value_number h hint _ hrest
  | string s =>
    unfold value
    rw [chars, quoted_append]
    exact Reader.map_ok (stringBody_escapes s rest)
  | @array depth elements h ih =>
    cases hfree with
    | array hfree =>
      have hstart : ∀ v ∈ elements, Starts v.chars := fun v hv => starts_chars (h v hv) (hfree v hv)
      have hread := elementsOf_separated hstart
        (fun v hv _ hclose => ih v hv (hfree v hv) hclose) rest
      unfold value
      rw [chars_array_append]
      exact Reader.map_ok hread
  | @object depth members ascending h ih =>
    cases hfree with
    | object hfree =>
      have hread := membersOf_separated
        (fun m hm _ hclose => ih m hm (hfree m hm) hclose) rest
      unfold value
      rw [chars_object_append, ← ofMembers_of_ascending ascending]
      exact Reader.map_ok hread

/-! ### Written texts hold no control characters -/

theorem printable_separated {parts : List (List Char)}
    (h : ∀ part ∈ parts, ∀ c ∈ part, 0x20 ≤ c.toNat) : ∀ c ∈ separated parts, 0x20 ≤ c.toNat := by
  intro c hc
  rw [separated_eq_listed] at hc
  rcases mem_listed hc with rfl | ⟨part, hpart, hc⟩
  · decide
  · exact h part hpart c hc

theorem printable_memberText {write : Json → List Char} {m : String × Json}
    (h : ∀ c ∈ write m.2, 0x20 ≤ c.toNat) : ∀ c ∈ memberText write m, 0x20 ≤ c.toNat := by
  intro c hc
  rcases List.mem_append.mp hc with hc | hc
  · exact printable_quoted m.1 c hc
  · exact (List.forall_mem_cons (p := fun c => 0x20 ≤ c.toNat)).mpr ⟨by decide, h⟩ c hc

theorem printable_chars {v : Json} (h : v.DoubleFree) : ∀ c ∈ v.chars, 0x20 ≤ c.toNat := by
  induction h with
  | null => exact printable_of_all rfl
  | bool b => cases b <;> exact printable_of_all rfl
  | number h => exact Number.printable_text h
  | string s => exact printable_quoted s
  | @array elements h ih =>
    have hparts : ∀ part ∈ elements.map chars, ∀ c ∈ part, 0x20 ≤ c.toNat :=
      List.forall_mem_map.mpr ih
    rw [← List.append_nil (chars _), chars_array_append]
    simp only [List.forall_mem_cons, List.forall_mem_append]
    exact ⟨by decide, printable_separated hparts, by decide, nofun⟩
  | @object members h ih =>
    have hparts : ∀ part ∈ members.map (memberText chars), ∀ c ∈ part, 0x20 ≤ c.toNat :=
      List.forall_mem_map.mpr fun m hm => printable_memberText (ih m hm)
    rw [← List.append_nil (chars _), chars_object_append]
    simp only [List.forall_mem_cons, List.forall_mem_append]
    exact ⟨by decide, printable_separated hparts, by decide, nofun⟩

/-- A text without control characters is taken as it is. -/
theorem source_text {v : Json} (h : v.DoubleFree) : source (v.text.toList.map some) = v.chars := by
  rw [text, String.toList_ofList, source, List.map_map]
  conv => rhs; rw [← List.map_id v.chars]
  refine List.map_congr_left fun c hc => if_neg ?_
  rintro rfl
  exact absurd (printable_chars h _ hc) (by decide)

end AgentFleet.Json
