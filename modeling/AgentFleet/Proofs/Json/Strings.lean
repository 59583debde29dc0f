import AgentFleet.Json.Reader
import AgentFleet.Json.Writer

/-!
Written strings are read as the strings that they were written for, whatever their characters.
-/

namespace AgentFleet.Json

open Read

theorem hexValue_hexDigit {n : Nat} (h : n < 16) : Text.hexValue? (hexDigit n) = some n := by
  have hall : ∀ n < 16, Text.hexValue? (hexDigit n) = some n := by decide
  exact hall n h

theorem stringFrom_hex {a b : Nat} (ha : a < 2) (hb : b < 16) (done cs : List Char) :
    stringFrom .escape done ('u' :: '0' :: '0' :: hexDigit a :: hexDigit b :: cs) =
      stringFrom .plain (Char.ofNat (a * 16 + b) :: done) cs := by
  have hunit : unit none (a * 16 + b) = .ok (.inl (Char.ofNat (a * 16 + b))) := by
    have hlow : ¬ (0xDC00 ≤ a * 16 + b ∧ a * 16 + b ≤ 0xDFFF) := by omega
    have hhigh : ¬ (0xD800 ≤ a * 16 + b ∧ a * 16 + b ≤ 0xDBFF) := by omega
    simp only [unit, hlow, hhigh, if_false]
  have hzero : Text.hexValue? '0' = some 0 := by decide
  have hfirst := hexValue_hexDigit (show a < 16 by omega)
  have hsecond := hexValue_hexDigit hb
  simp [stringFrom, hzero, hfirst, hsecond, hunit]

theorem stringFrom_plain {c : Char} (hquote : c ≠ '"') (hslash : c ≠ '\\') (hc : ¬ c.toNat < 0x20)
    (done cs : List Char) :
    stringFrom .plain done (c :: cs) = stringFrom .plain (c :: done) cs := by
  rw [stringFrom, if_neg hquote, if_neg hslash, if_neg hc]

theorem stringFrom_letter {letter c : Char} (hletter : letter ≠ 'u')
    (hc : escaped? letter = some c) (done cs : List Char) :
    stringFrom .plain done ('\\' :: letter :: cs) = stringFrom .plain (c :: done) cs := by
  simp [stringFrom, hletter, hc]

theorem stringFrom_escape (c : Char) (done cs : List Char) :
    stringFrom .plain done (escape c ++ cs) = stringFrom .plain (c :: done) cs := by
  unfold escape
  split
  next => exact stringFrom_letter (by decide) rfl done cs
  next => exact stringFrom_letter (by decide) rfl done cs
  next => exact stringFrom_letter (by decide) rfl done cs
  next => exact stringFrom_letter (by decide) rfl done cs
  next => exact stringFrom_letter (by decide) rfl done cs
  next => exact stringFrom_letter (by decide) rfl done cs
  next => exact stringFrom_letter (by decide) rfl done cs
  next hquote hslash _ _ _ _ _ =>
    split
    next hcontrol =>
      have hcode : Char.ofNat (c.toNat / 16 * 16 + c.toNat % 16) = c := by
        rw [Nat.div_add_mod', Char.ofNat_toNat]
      have hfirst : c.toNat / 16 < 2 := by omega
      have hread := stringFrom_hex hfirst (Nat.mod_lt c.toNat (by decide)) done cs
      rw [hcode] at hread
      exact hread
    next hcontrol => exact stringFrom_plain hquote hslash hcontrol done cs

theorem stringFrom_escapes (s done rest : List Char) :
    stringFrom .plain done (s.flatMap escape ++ '"' :: rest) = .ok (done.reverse ++ s, rest) := by
  induction s generalizing done with
  | nil => simp [stringFrom]
  | cons c s ih =>
    rw [List.flatMap_cons, List.append_assoc, stringFrom_escape, ih]
    simp

theorem stringBody_escapes (s : String) (rest : List Char) :
    stringBody (s.toList.flatMap escape ++ '"' :: rest) = .ok (s, rest) := by
  have hread := stringFrom_escapes s.toList [] rest
  change (stringFrom .plain [] _ >>= fun p => .ok (String.ofList p.1, p.2)) = _
  rw [hread]
  simp [Bind.bind, Except.bind]

theorem quoted_append (s : String) (rest : List Char) :
    quoted s ++ rest = '"' :: (s.toList.flatMap escape ++ '"' :: rest) := by
  simp [quoted]

/-! ### Written strings hold no control characters -/

theorem printable_hexDigit {n : Nat} (h : n < 16) : 0x20 ≤ (hexDigit n).toNat := by
  have hall : ∀ n < 16, 0x20 ≤ (hexDigit n).toNat := by decide
  exact hall n h

theorem printable_of_all {cs : List Char} (h : (cs.all fun c => 0x20 ≤ c.toNat) = true) :
    ∀ c ∈ cs, 0x20 ≤ c.toNat := by
  simpa using h

theorem printable_escape (c : Char) : ∀ d ∈ escape c, 0x20 ≤ d.toNat := by
  unfold escape
  split
  case h_8 =>
    split
    next hcontrol =>
      have hfirst := printable_hexDigit (show c.toNat / 16 < 16 by omega)
      have hsecond := printable_hexDigit (show c.toNat % 16 < 16 by omega)
      simp only [List.forall_mem_cons]
      exact ⟨by decide, by decide, by decide, by decide, hfirst, hsecond, nofun⟩
    next hcontrol => exact List.forall_mem_singleton.mpr (Nat.not_lt.mp hcontrol)
  all_goals exact printable_of_all rfl

theorem printable_quoted (s : String) : ∀ d ∈ quoted s, 0x20 ≤ d.toNat := by
  intro d hd
  simp only [quoted, List.mem_cons, List.mem_append, List.mem_flatMap, List.not_mem_nil,
    or_false] at hd
  rcases hd with rfl | ⟨c, -, hd⟩ | rfl
  · decide
  · exact printable_escape c d hd
  · decide

end AgentFleet.Json
