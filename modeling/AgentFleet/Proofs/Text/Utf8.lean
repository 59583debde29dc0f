import Mathlib.Tactic.IntervalCases
import AgentFleet.Text.Utf8

/-!
Text that was written as UTF-8 is read again as it was.
-/

namespace AgentFleet.Text.Utf8

variable {bs : List UInt8} {low high : UInt8} {bits owed m : Nat}

/-! ### First octets -/

theorem first_one (h : m < 128) : first (UInt8.ofNat m) = .whole (Char.ofNat m) := by
  interval_cases m <;> rfl

theorem first_two (hlow : 2 ≤ m) (hhigh : m < 32) :
    first (UInt8.ofNat (m + 0xC0)) = .begun ⟨m, 1, 0x80, 0xBF⟩ := by
  interval_cases m <;> rfl

theorem first_three (h : m < 16) : first (UInt8.ofNat (m + 0xE0)) =
    .begun ⟨m, 2, if m = 0 then 0xA0 else 0x80, if m = 13 then 0x9F else 0xBF⟩ := by
  interval_cases m <;> rfl

theorem first_four (h : m ≤ 4) : first (UInt8.ofNat (m + 0xF0)) =
    .begun ⟨m, 3, if m = 0 then 0x90 else 0x80, if m = 4 then 0x8F else 0xBF⟩ := by
  interval_cases m <;> rfl

/-! ### Characters -/

theorem pieces_begun {b : UInt8} {p : Pending} (h : first b = .begun p) :
    pieces none (b :: bs) = pieces (some p) bs := by
  rw [pieces, h]

theorem pieces_continued (h : m < 64) (hlow : low.toNat ≤ m + 0x80)
    (hhigh : m + 0x80 ≤ high.toNat) :
    pieces (some ⟨bits, owed, low, high⟩) (UInt8.ofNat (m + 0x80) :: bs) =
      if owed ≤ 1 then some (Char.ofNat (bits * 64 + m)) :: pieces none bs
      else pieces (some ⟨bits * 64 + m, owed - 1, 0x80, 0xBF⟩) bs := by
  have hoctet : (UInt8.ofNat (m + 0x80)).toNat = m + 0x80 := by
    rw [UInt8.toNat_ofNat']
    omega
  have hbounds : low ≤ UInt8.ofNat (m + 0x80) ∧ UInt8.ofNat (m + 0x80) ≤ high := by
    rw [UInt8.le_iff_toNat_le, UInt8.le_iff_toNat_le, hoctet]
    exact ⟨hlow, hhigh⟩
  rw [pieces, if_pos hbounds, hoctet, Nat.add_sub_cancel]

theorem pieces_further (h : m < 64) :
    pieces (some ⟨bits, owed, 0x80, 0xBF⟩) (UInt8.ofNat (m + 0x80) :: bs) =
      if owed ≤ 1 then some (Char.ofNat (bits * 64 + m)) :: pieces none bs
      else pieces (some ⟨bits * 64 + m, owed - 1, 0x80, 0xBF⟩) bs :=
  pieces_continued h (Nat.le_add_left _ m) (Nat.le_of_lt_succ (Nat.add_lt_add_right h _))

theorem pieces_two {a b : Nat} (ha : 2 ≤ a ∧ a < 32) (hb : b < 64) :
    pieces none (UInt8.ofNat (a + 0xC0) :: UInt8.ofNat (b + 0x80) :: bs) =
      some (Char.ofNat (a * 64 + b)) :: pieces none bs := by
  rw [pieces_begun (first_two ha.1 ha.2), pieces_further hb, if_pos le_rfl]

/-- Three octets are no longer than needed, and no surrogate. -/
theorem pieces_three {a b c : Nat} (ha : a < 16) (hb : b < 64) (hc : c < 64)
    (hneeded : a = 0 → 32 ≤ b) (hsurrogate : a = 13 → b < 32) :
    pieces none (UInt8.ofNat (a + 0xE0) :: UInt8.ofNat (b + 0x80) :: UInt8.ofNat (c + 0x80) :: bs) =
      some (Char.ofNat ((a * 64 + b) * 64 + c)) :: pieces none bs := by
  have hlow : (if a = 0 then 0xA0 else 0x80 : UInt8).toNat ≤ b + 0x80 := by
    split
    · have h : 32 ≤ b := hneeded ‹_›
      exact Nat.add_le_add_right h 0x80
    · exact Nat.le_add_left _ b
  have hhigh : b + 0x80 ≤ (if a = 13 then 0x9F else 0xBF : UInt8).toNat := by
    split
    · exact Nat.le_of_lt_succ (Nat.add_lt_add_right (hsurrogate ‹_›) _)
    · exact Nat.le_of_lt_succ (Nat.add_lt_add_right hb _)
  rw [pieces_begun (first_three ha), pieces_continued hb hlow hhigh, if_neg (by decide),
    pieces_further hc, if_pos le_rfl]

/-- Four octets are no longer than needed, and not above the last code point. -/
theorem pieces_four {a b c d : Nat} (ha : a ≤ 4) (hb : b < 64) (hc : c < 64) (hd : d < 64)
    (hneeded : a = 0 → 16 ≤ b) (hlast : a = 4 → b < 16) :
    pieces none (UInt8.ofNat (a + 0xF0) :: UInt8.ofNat (b + 0x80) :: UInt8.ofNat (c + 0x80) ::
      UInt8.ofNat (d + 0x80) :: bs) =
      some (Char.ofNat (((a * 64 + b) * 64 + c) * 64 + d)) :: pieces none bs := by
  have hlow : (if a = 0 then 0x90 else 0x80 : UInt8).toNat ≤ b + 0x80 := by
    split
    · have h : 16 ≤ b := hneeded ‹_›
      exact Nat.add_le_add_right h 0x80
    · exact Nat.le_add_left _ b
  have hhigh : b + 0x80 ≤ (if a = 4 then 0x8F else 0xBF : UInt8).toNat := by
    split
    · exact Nat.le_of_lt_succ (Nat.add_lt_add_right (hlast ‹_›) _)
    · exact Nat.le_of_lt_succ (Nat.add_lt_add_right hb _)
  rw [pieces_begun (first_four ha), pieces_continued hb hlow hhigh, if_neg (by decide),
    pieces_further hc, if_neg (by decide), pieces_further hd, if_pos le_rfl]

theorem pieces_encoded (c : Char) (bs : List UInt8) :
    pieces none (String.utf8EncodeChar c ++ bs) = some c :: pieces none bs := by
  have hc : Char.ofNat c.val.toNat = c := Char.ofNat_toNat c
  have hvalid : c.val.toNat < 0xD800 ∨ 0xDFFF < c.val.toNat ∧ c.val.toNat < 0x110000 := c.valid
  unfold String.utf8EncodeChar
  generalize c.val.toNat = v at hc hvalid
  subst hc
  simp only
  split
  · rw [List.singleton_append, pieces, first_one (by omega)]
  split
  · have hbits : v / 64 % 0x20 * 64 + v % 0x40 = v := by omega
    simp only [List.cons_append, List.nil_append]
    rw [pieces_two (by omega) (by omega), hbits]
  split
  · have hbits : (v / 4096 % 0x10 * 64 + v / 64 % 0x40) * 64 + v % 0x40 = v := by omega
    simp only [List.cons_append, List.nil_append]
    rw [pieces_three (by omega) (by omega) (by omega) (by omega) (by omega), hbits]
  · have hbits : ((v / 262144 % 0x08 * 64 + v / 4096 % 0x40) * 64 + v / 64 % 0x40) * 64 +
        v % 0x40 = v := by omega
    simp only [List.cons_append, List.nil_append]
    rw [pieces_four (by omega) (by omega) (by omega) (by omega) (by omega) (by omega), hbits]

theorem pieces_flatMap (cs : List Char) :
    pieces none (cs.flatMap String.utf8EncodeChar) = cs.map some := by
  induction cs with
  | nil => rfl
  | cons c cs ih => rw [List.flatMap_cons, pieces_encoded, ih, List.map_cons]

/-! ### Texts -/

theorem toList_loop (bytes : ByteArray) (i : Nat) (r : List UInt8) :
    ByteArray.toList.loop bytes i r = r.reverse ++ bytes.data.toList.drop i := by
  fun_induction ByteArray.toList.loop bytes i r with
  | case1 i r hi ih =>
    have hlength : i < bytes.data.toList.length := by simpa using hi
    have hget : bytes.get! i = bytes.data[i]! := rfl
    rw [ih, List.drop_eq_getElem_cons hlength, List.reverse_cons, List.append_assoc, hget,
      getElem!_pos bytes.data i hi]
    rfl
  | case2 i r hi =>
    have hlength : bytes.data.toList.length ≤ i := by simpa using hi
    rw [List.drop_eq_nil_of_le hlength, List.append_nil]

theorem toList_toUTF8 (s : String) : s.toUTF8.toList = s.toList.flatMap String.utf8EncodeChar := by
  have hdata : s.toUTF8 = (s.toList.flatMap String.utf8EncodeChar).toByteArray := by
    rw [← List.utf8Encode, String.utf8Encode_toList]
    rfl
  rw [ByteArray.toList, toList_loop, hdata, List.toList_data_toByteArray]
  rfl

theorem mapM_map_some (cs : List Char) : (cs.map some).mapM id = some cs := by
  induction cs with
  | nil => rfl
  | cons c cs ih => simp [ih]

/-- What was written as UTF-8 is text, and it is the same text again. -/
theorem strict_toUTF8 (s : String) : strict s.toUTF8 = some s := by
  rw [strict, toList_toUTF8, pieces_flatMap, mapM_map_some]
  exact congrArg some String.ofList_toList

end AgentFleet.Text.Utf8
