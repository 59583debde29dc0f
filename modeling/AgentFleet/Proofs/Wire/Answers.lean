import AgentFleet.Proofs.Json.Decoding
import AgentFleet.Wire.Heartbeats

/-!
Answers on the wire. The payload of a decoded answer is a value that may stand one level below the
answer, and an answer with such a payload is decoded from its text again.
-/

namespace AgentFleet

open Json
open Json.Decoder

namespace Answer

/-! ### What is read -/

/-- An answer is made from its payload, or has none. -/
def Tag.Fits : Tag → Prop
  | bare answer => answer.payload? = none
  | payload _ answer => ∀ config, (answer config).payload? = some config

theorem fits_tags : ∀ t ∈ tags, t.2.Fits := by
  intro t ht
  simp only [tags, List.mem_cons, List.not_mem_nil, or_false] at ht
  rcases ht with rfl | rfl | rfl | rfl | rfl
  all_goals first | exact fun _ => rfl | rfl

theorem yields_taggedMembers (depth fuel : Nat) (first : Bool) {tag : Option Tag}
    (htag : ∀ t ∈ tag, t.Fits) :
    Reader.Yields (taggedMembers depth fuel first tag)
      fun p => (∀ t ∈ p.1, t.Fits) ∧ ∀ m ∈ p.2, WellFormed depth m.2 := by
  induction fuel generalizing first tag with
  | zero => nofun
  | succ fuel ih =>
    refine Reader.yields_any.bind fun name _ => ?_
    cases name with
    | none => exact Reader.yields_pure ⟨htag, nofun⟩
    | some name =>
      dsimp only
      split
      next =>
        split
        next => exact Reader.yields_fail _
        next =>
          refine Reader.yields_any.bind fun _ _ => ?_
          refine (yields_variantName fits_tags).bind fun t ht => ih false ?_
          rintro _ ⟨⟩
          exact ht
      next =>
        refine Reader.yields_any.bind fun _ _ => ?_
        refine (Json.yields_value depth).bind fun v hv => ?_
        refine (ih false htag).bind fun p hp => Reader.yields_pure ⟨hp.1, ?_⟩
        exact List.forall_mem_cons.mpr ⟨hv, hp.2⟩

theorem payload_ofMembers {members : List (String × Json)} {tag : Tag} {a : Answer}
    (htag : tag.Fits) (h : ofMembers members tag = .ok a) :
    ∀ config ∈ a.payload?, ∃ m ∈ members, m.2 = config := by
  intro config hconfig
  cases tag with
  | bare answer =>
    cases h
    cases htag.symm.trans hconfig
  | payload name answer =>
    rw [ofMembers] at h
    split at h
    next => cases h
    next other given hfilter =>
      have hmem : (other, given) ∈ members.filter (·.1 = "config") := by
        rw [hfilter]
        exact List.mem_singleton_self _
      obtain rfl := Except.ok.inj h
      obtain rfl := Option.some.inj ((htag given).symm.trans hconfig)
      exact ⟨_, (List.mem_filter.mp hmem).1, rfl⟩
    next => cases h

theorem payload_ofElements {elements : List Json} {tag : Tag} {a : Answer}
    (htag : tag.Fits) (h : ofElements elements tag = .ok a) :
    ∀ config ∈ a.payload?, config ∈ elements := by
  intro config hconfig
  cases tag with
  | bare answer =>
    rw [ofElements] at h
    split at h
    next =>
      cases h
      cases htag.symm.trans hconfig
    next => cases h
  | payload name answer =>
    rcases elements with _ | ⟨given, _ | ⟨_, _⟩⟩
    · cases h
    · obtain rfl := Except.ok.inj h
      obtain rfl := Option.some.inj ((htag given).symm.trans hconfig)
      exact List.mem_singleton_self _
    · cases h

theorem yields_finish {r : Except Wire.Mismatch Answer} {P : Answer → Prop}
    (h : ∀ a, r = .ok a → P a) : Reader.Yields (finish r) P := by
  cases r with
  | ok a => exact Reader.yields_pure (h a rfl)
  | error m => exact Reader.yields_fail m

theorem yields_ofMap (depth : Nat) :
    Reader.Yields (ofMap depth) fun a => ∀ config ∈ a.payload?, WellFormed depth config := by
  intro cs
  have hnone : ∀ t ∈ (none : Option Tag), t.Fits := nofun
  refine (yields_taggedMembers depth (cs.length + 1) true hnone).bind (fun p hp => ?_) cs
  obtain ⟨tag, members⟩ := p
  cases tag with
  | none => exact Reader.yields_fail _
  | some tag =>
    refine yields_finish fun a ha config hconfig => ?_
    obtain ⟨m, hm, rfl⟩ := payload_ofMembers (hp.1 tag rfl) ha config hconfig
    exact hp.2 m hm

theorem yields_ofSequence (depth : Nat) :
    Reader.Yields (ofSequence depth) fun a => ∀ config ∈ a.payload?, WellFormed depth config := by
  intro cs
  refine Reader.yields_any.bind (fun more _ => ?_) cs
  cases more with
  | false => exact Reader.yields_fail _
  | true =>
    refine (yields_variantName fits_tags).bind fun tag htag => ?_
    refine ((Json.yields_value depth).elementsFrom _ false).bind fun elements helements => ?_
    refine yields_finish fun a ha config hconfig => ?_
    exact helements config (payload_ofElements htag ha config hconfig)

theorem yields_decoder (depth : Nat) : Reader.Yields (decoder (depth + 1))
    fun a => ∀ config ∈ a.payload?, WellFormed depth config := by
  intro cs a rest h
  unfold decoder at h
  split at h
  next => exact yields_ofSequence depth _ _ _ h
  next => exact yields_ofMap depth _ _ _ h
  next => exact (Reader.mismatch_ne_ok _ h).elim

/-! ### What is written -/

theorem taggedMembers_listed {depth : Nat} {l : List (String × Json)}
    (hname : ∀ m ∈ l, m.1 ≠ "type") (hwell : ∀ m ∈ l, WellFormed depth m.2)
    (hfree : ∀ m ∈ l, m.2.DoubleFree) {fuel : Nat} (hfuel : l.length < fuel) (tag : Option Tag)
    (rest : List Char) :
    taggedMembers depth fuel false tag
      (listed false (l.map (memberText chars)) ++ '\x7d' :: rest) = .ok ((tag, l), rest) := by
  induction l generalizing fuel with
  | nil =>
    cases fuel with
    | zero => exact (Nat.not_lt_zero _ hfuel).elim
    | succ fuel => rfl
  | cons m l ih =>
    obtain ⟨fuel, rfl⟩ := Nat.exists_eq_succ_of_ne_zero (Nat.ne_zero_of_lt hfuel)
    obtain ⟨hm, hname⟩ := List.forall_mem_cons.mp hname
    obtain ⟨hv, hwell⟩ := List.forall_mem_cons.mp hwell
    obtain ⟨hvfree, hfree⟩ := List.forall_mem_cons.mp hfree
    have hclose := closes_listed (l.map (memberText chars)) (.inr rfl) rest
    have hread := value_chars hv hvfree hclose
    have hrest := ih hname hwell hfree (Nat.lt_of_succ_lt_succ hfuel)
    rw [List.map_cons, taggedMembers, memberText, Reader.bind_ok (nextName_listed false _ _ _ _)]
    dsimp only
    rw [if_neg hm, Reader.bind_ok (symbol_cons rfl _), Reader.bind_ok hread, Reader.bind_ok hrest]
    rfl

def others (a : Answer) : List (String × Json) :=
  a.payload?.toList.map fun config => ("config", config)

theorem toJson_eq (a : Answer) :
    a.toJson = .object (("type", .string a.tagName) :: a.others) := by
  cases a <;> rfl

theorem exists_tag (a : Answer) :
    ∃ tag, tags.lookup a.tagName = some tag ∧ ofMembers a.others tag = .ok a := by
  cases a with
  | init config => exact ⟨_, rfl, rfl⟩
  | newJob config => exact ⟨_, rfl, rfl⟩
  | keepOn => exact ⟨_, rfl, rfl⟩
  | wait => exact ⟨_, rfl, rfl⟩
  | terminate => exact ⟨_, rfl, rfl⟩

theorem doubleFree_toJson {a : Answer} (h : ∀ config ∈ a.payload?, config.DoubleFree) :
    a.toJson.DoubleFree := by
  rw [toJson_eq]
  refine .object (List.forall_mem_cons.mpr ⟨.string _, ?_⟩)
  exact List.forall_mem_map.mpr fun config hconfig => h config (Option.mem_toList.mp hconfig)

theorem decodes_toJson {a : Answer} {depth : Nat}
    (hwell : ∀ config ∈ a.payload?, WellFormed depth config)
    (hfree : ∀ config ∈ a.payload?, config.DoubleFree) :
    Decodes decoder (depth + 1) a.toJson a := by
  intro rest _
  obtain ⟨tag, hlookup, hmake⟩ := a.exists_tag
  have hothers : ∀ m ∈ a.others, m.1 = "config" ∧ m.2 ∈ a.payload? := by
    intro m hm
    obtain ⟨config, hconfig, rfl⟩ := List.mem_map.mp hm
    exact ⟨rfl, Option.mem_toList.mp hconfig⟩
  have hname : variantName tags (quoted a.tagName ++
      (listed false (a.others.map (memberText chars)) ++ '\x7d' :: rest)) =
        .ok (tag, listed false (a.others.map (memberText chars)) ++ '\x7d' :: rest) := by
    rw [variantName, Reader.bind_ok (text_quoted _ _ _), variantNamed, hlookup]
    rfl
  -- The tag is written first, so it is known when the other members are read.
  have hread : ∀ fuel, a.others.length + 1 < fuel + 1 →
      taggedMembers depth (fuel + 1) true none (listed true
        ((("type", .string a.tagName) :: a.others).map (memberText chars)) ++ '\x7d' :: rest) =
          .ok ((some tag, a.others), rest) := by
    intro fuel hfuel
    have hrest := taggedMembers_listed (fun m hm => by rw [(hothers m hm).1]; decide)
      (fun m hm => hwell _ (hothers m hm).2) (fun m hm => hfree _ (hothers m hm).2)
      (Nat.lt_of_succ_lt_succ hfuel) (some tag) rest
    rw [List.map_cons, taggedMembers, memberText, Reader.bind_ok (nextName_listed true _ _ _ _)]
    dsimp only
    rw [if_pos rfl, if_neg (by simp), Reader.bind_ok (symbol_cons rfl _), chars,
      Reader.bind_ok hname]
    exact hrest
  rw [toJson_eq, chars_object_append, separated_eq_listed]
  change ofMap depth _ = _
  rw [ofMap, Reader.bind_ok (hread _ (length_lt_members chars (_ :: a.others) _))]
  dsimp only
  rw [hmake]
  rfl

end Answer

end AgentFleet
