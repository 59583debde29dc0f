import Mathlib.Tactic.IntervalCases
import AgentFleet.Address.Form
import AgentFleet.Proofs.Text.Utf8

/-!
A query of pairs is read as the same pairs again, whatever they hold. Each component is read back
first; the characters that separate components occur in none of them.
-/

namespace AgentFleet.Address.Form

open Text.Utf8

def octets (cs : List Char) : List UInt8 := cs.flatMap String.utf8EncodeChar

/-- A plus sign stands for a blank. -/
def blanks (bs : List UInt8) : List UInt8 := bs.map fun b => if b = 0x2B then 0x20 else b

variable {b mark : UInt8} {bs cs rest : List UInt8} {c : Char} {s : String}

@[simp] theorem octets_nil : octets [] = [] := rfl

@[simp] theorem octets_cons (c : Char) (cs : List Char) :
    octets (c :: cs) = String.utf8EncodeChar c ++ octets cs := rfl

@[simp] theorem octets_append (cs ds : List Char) :
    octets (cs ++ ds) = octets cs ++ octets ds := List.flatMap_append

@[simp] theorem blanks_append (bs cs : List UInt8) :
    blanks (bs ++ cs) = blanks bs ++ blanks cs := List.map_append

/-! ### Components -/

theorem percentDecode_cons (h : b ≠ 0x25) (rest : List UInt8) :
    percentDecode (b :: rest) = b :: percentDecode rest := by
  rw [percentDecode]
  intro _ _ _ heq
  exact absurd heq h

theorem octets_upperHexDigit {n : Nat} (h : n < 16) :
    ∃ x, String.utf8EncodeChar (upperHexDigit n) = [x] ∧ hexOctet? x = some n.toUInt8 ∧
      x ∉ [0x26, 0x2B, 0x3D] := by
  interval_cases n <;> exact ⟨_, rfl, by decide⟩

theorem octets_percentOctet (b : UInt8) :
    ∃ x y, octets (percentOctet b) = [0x25, x, y] ∧
      (∀ rest, percentDecode (0x25 :: x :: y :: rest) = b :: percentDecode rest) ∧
      ∀ z ∈ [0x25, x, y], z ∉ [0x26, 0x2B, 0x3D] := by
  have hhigh : b.toNat / 16 < 16 := by have := b.toNat_lt; omega
  have hlow : b.toNat % 16 < 16 := Nat.mod_lt _ (by decide)
  obtain ⟨x, hx, hxvalue, hxmark⟩ := octets_upperHexDigit hhigh
  obtain ⟨y, hy, hyvalue, hymark⟩ := octets_upperHexDigit hlow
  refine ⟨x, y, ?_, fun rest => ?_, ?_⟩
  · simp only [octets, percentOctet, List.flatMap_cons, List.flatMap_nil, hx, hy]
    rfl
  · have hvalue : (b.toNat / 16).toUInt8 * 16 + (b.toNat % 16).toUInt8 = b := by
      apply UInt8.toNat_inj.mp
      simp
      omega
    rw [percentDecode, hxvalue, hyvalue]
    simp only [hvalue]
  · simp only [List.forall_mem_cons]
    exact ⟨by decide, hxmark, hymark, nofun⟩

theorem utf8EncodeChar_ascii (h : c.toNat < 0x80) :
    String.utf8EncodeChar c = [c.toNat.toUInt8] := by
  have hval : c.val.toNat ≤ 127 := Nat.le_of_lt_succ h
  exact if_pos hval

theorem isPlain_ascii (h : isPlain c = true) : c.toNat < 0x80 := by
  simp only [isPlain, Text.isAsciiLetter, Text.isAsciiDigit, Bool.or_eq_true, Bool.and_eq_true,
    decide_eq_true_eq, Char.le_def, UInt32.le_iff_toNat_le] at h
  rcases h with ((((((⟨-, hz⟩ | ⟨-, hz⟩) | ⟨-, hz⟩) | rfl) | rfl) | rfl) | rfl)
  all_goals first | decide | exact lt_of_le_of_lt hz (by decide)

theorem octet_of_isPlain (h : isPlain c = true) :
    c.toNat.toUInt8 ∉ ([0x25, 0x26, 0x2B, 0x3D] : List UInt8) := by
  have hall : ∀ n < 0x80, isPlain (Char.ofNat n) = true →
      n.toUInt8 ∉ ([0x25, 0x26, 0x2B, 0x3D] : List UInt8) := by decide
  apply hall c.toNat (isPlain_ascii h)
  rwa [Char.ofNat_toNat]

theorem percentDecode_flatMap_percentOctet (bs rest : List UInt8) :
    percentDecode (blanks (octets (bs.flatMap percentOctet)) ++ rest) =
      bs ++ percentDecode rest := by
  induction bs with
  | nil => rfl
  | cons b bs ih =>
    obtain ⟨x, y, hoctets, hdecode, hmarks⟩ := octets_percentOctet b
    have hplus : blanks [0x25, x, y] = [0x25, x, y] := by
      refine (List.map_congr_left fun z hz => ?_).trans (List.map_id _)
      have hz : z ≠ 0x2B := fun heq => hmarks z hz (by simp [heq])
      simp [hz]
    rw [List.flatMap_cons, octets_append, blanks_append, hoctets, hplus, List.append_assoc]
    simp only [List.cons_append, List.nil_append, hdecode, ih]

theorem percentDecode_encodeChar (c : Char) (rest : List UInt8) :
    percentDecode (blanks (octets (encodeChar c)) ++ rest) =
      String.utf8EncodeChar c ++ percentDecode rest := by
  unfold encodeChar
  split_ifs with hblank hplain
  · subst hblank
    exact percentDecode_cons (by decide) rest
  · have hmarks := octet_of_isPlain hplain
    simp only [List.mem_cons, not_or] at hmarks
    rw [octets_cons, octets_nil, List.append_nil, utf8EncodeChar_ascii (isPlain_ascii hplain)]
    simp only [blanks, List.map_cons, List.map_nil, hmarks, reduceIte, List.cons_append,
      List.nil_append]
    exact percentDecode_cons hmarks.1 rest
  · exact percentDecode_flatMap_percentOctet _ rest

theorem percentDecode_encode (cs : List Char) :
    percentDecode (blanks (octets (cs.flatMap encodeChar))) = octets cs := by
  induction cs with
  | nil => rfl
  | cons c cs ih =>
    rw [List.flatMap_cons, octets_append, blanks_append, percentDecode_encodeChar, ih, octets_cons]

theorem toList_mk (bs : List UInt8) : (ByteArray.mk bs.toArray).toList = bs := by
  rw [ByteArray.toList, toList_loop]
  simp

theorem decode_encode (s : String) : decode (octets (encode s)) = s := by
  have hdecoded : percentDecode (blanks (octets (encode s))) = octets s.toList :=
    percentDecode_encode s.toList
  change lossy ⟨(percentDecode (blanks (octets (encode s)))).toArray⟩ = s
  rw [hdecoded, lossy, substituting, toList_mk, octets, pieces_flatMap, List.map_map]
  exact (congrArg String.ofList (List.map_id _)).trans String.ofList_toList

/-! ### Separators -/

theorem mem_octets {cs : List Char} : b ∈ octets cs ↔ ∃ c ∈ cs, b ∈ String.utf8EncodeChar c :=
  List.mem_flatMap

theorem not_mem_octets_encodeChar (c : Char) (h : mark ∈ ([0x26, 0x3D] : List UInt8)) :
    mark ∉ octets (encodeChar c) := by
  unfold encodeChar
  split_ifs with hblank hplain
  · simp only [List.mem_cons, List.not_mem_nil, or_false] at h
    rcases h with rfl | rfl <;> decide
  · rw [octets_cons, octets_nil, List.append_nil, utf8EncodeChar_ascii (isPlain_ascii hplain)]
    have hmarks := octet_of_isPlain hplain
    simp only [List.mem_cons, List.not_mem_nil, or_false, not_or] at h hmarks ⊢
    rcases h with rfl | rfl
    · exact Ne.symm hmarks.2.1
    · exact Ne.symm hmarks.2.2.2
  · intro hmem
    obtain ⟨d, hd, hmem⟩ := mem_octets.mp hmem
    obtain ⟨b, -, hd⟩ := List.mem_flatMap.mp hd
    obtain ⟨x, y, hoctets, -, hmarks⟩ := octets_percentOctet b
    have hmem : mark ∈ octets (percentOctet b) := mem_octets.mpr ⟨d, hd, hmem⟩
    rw [hoctets] at hmem
    apply hmarks mark hmem
    revert h
    simp only [List.mem_cons, List.not_mem_nil, or_false]
    rintro (rfl | rfl) <;> simp

theorem not_mem_octets_encode (s : String) (h : mark ∈ ([0x26, 0x3D] : List UInt8)) :
    mark ∉ octets (encode s) := by
  intro hmem
  obtain ⟨d, hd, hmem⟩ := mem_octets.mp hmem
  obtain ⟨c, -, hd⟩ := List.mem_flatMap.mp hd
  exact not_mem_octets_encodeChar c h (mem_octets.mpr ⟨d, hd, hmem⟩)

theorem splitAll_append (h : mark ∉ bs) (cs : List UInt8) :
    splitAll mark (bs ++ mark :: cs) = bs :: splitAll mark cs := by
  induction bs with
  | nil => simp [splitAll]
  | cons b bs ih =>
    simp only [List.mem_cons, not_or] at h
    rw [List.cons_append, splitAll, if_neg (Ne.symm h.1), ih h.2]

theorem splitAll_of_not_mem (h : mark ∉ bs) : splitAll mark bs = [bs] := by
  induction bs with
  | nil => rfl
  | cons b bs ih =>
    simp only [List.mem_cons, not_or] at h
    rw [splitAll, if_neg (Ne.symm h.1), ih h.2]

theorem splitFirst_append (h : mark ∉ bs) (cs : List UInt8) :
    splitFirst mark (bs ++ mark :: cs) = (bs, cs) := by
  induction bs with
  | nil => simp [splitFirst]
  | cons b bs ih =>
    simp only [List.mem_cons, not_or] at h
    rw [List.cons_append, splitFirst, if_neg (Ne.symm h.1), ih h.2]

/-! ### Pairs -/

def pairOctets (pair : String × String) : List UInt8 :=
  octets (encode pair.1) ++ 0x3D :: octets (encode pair.2)

def readPair (part : List UInt8) : String × String :=
  (decode (splitFirst 0x3D part).1, decode (splitFirst 0x3D part).2)

theorem pairs_eq (query : List UInt8) :
    pairs query = ((splitAll 0x26 query).filter (· ≠ [])).map readPair := rfl

theorem readPair_pairOctets (pair : String × String) : readPair (pairOctets pair) = pair := by
  rw [readPair, pairOctets, splitFirst_append (not_mem_octets_encode _ (by decide))]
  simp only [decode_encode]

theorem pairOctets_ne_nil (pair : String × String) : pairOctets pair ≠ [] := by
  simp [pairOctets]

theorem not_mem_pairOctets (pair : String × String) : 0x26 ∉ pairOctets pair := by
  rw [pairOctets, List.mem_append, List.mem_cons]
  rintro (hmem | heq | hmem)
  · exact not_mem_octets_encode _ (by decide) hmem
  · exact absurd heq (by decide)
  · exact not_mem_octets_encode _ (by decide) hmem

theorem utf8EncodeChar_equals : String.utf8EncodeChar '=' = [0x3D] := rfl

theorem utf8EncodeChar_ampersand : String.utf8EncodeChar '&' = [0x26] := rfl

theorem pairs_octets_text (ps : List (String × String)) : pairs (octets (text ps)) = ps := by
  fun_induction text ps with
  | case1 => rfl
  | case2 name value =>
    have hoctets : octets (encode name ++ '=' :: encode value) = pairOctets (name, value) := by
      rw [octets_append, octets_cons, utf8EncodeChar_equals]
      rfl
    rw [hoctets, pairs_eq, splitAll_of_not_mem (not_mem_pairOctets _)]
    simp [pairOctets_ne_nil, readPair_pairOctets]
  | case3 name value rest hrest ih =>
    have hoctets : octets (encode name ++ '=' :: (encode value ++ '&' :: text rest)) =
        pairOctets (name, value) ++ 0x26 :: octets (text rest) := by
      simp [utf8EncodeChar_equals, utf8EncodeChar_ampersand, pairOctets]
    rw [hoctets, pairs_eq, splitAll_append (not_mem_pairOctets _),
      List.filter_cons_of_pos (by simp [pairOctets_ne_nil]), List.map_cons, readPair_pairOctets,
      ← pairs_eq, ih]

end AgentFleet.Address.Form
