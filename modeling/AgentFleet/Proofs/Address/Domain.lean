import AgentFleet.Address.Domain
import AgentFleet.Address.Percent
import AgentFleet.Proofs.Address.Form
import AgentFleet.Proofs.Text.Canonical

/-!
No domain holds a blank or a control character. Such a character is read as itself, stays when the
text is composed, and is forbidden then.
-/

namespace AgentFleet.Address

open Text (CodeTable CodeRange Spelled readCode)
open Text.Utf8 (First Pending first pieces)

variable {j : Char} {b : UInt8} {bs : List UInt8} {cs : List Char}

namespace Domain

/-! ### Mapping -/

theorem above_blanks_of_mem : ∀ r ∈ mappings, 0x20 < r.low := by
  have hitems : ∀ r ∈ mappings, ∃ item, Nat.blt 0x20 (readCode 0 item).1 = true ∧
      r = CodeRange.ofItem Mapping.read item := by
    unfold mappings
    apply Spelled.exists_item_of_mem
    · repeat apply Spelled.cons
      exact Spelled.nil
    · decide +kernel
  intro r hr
  obtain ⟨item, habove, rfl⟩ := hitems r hr
  rw [CodeRange.low_ofItem]
  exact Nat.blt_eq.mp habove

theorem mappedBy?_of_none {table : CodeTable Mapping} (h : table.range? j = none) :
    mappedBy? table j = some [j] := by
  rw [mappedBy?, h]

theorem mapped?_of_blank (hj : j.toNat ≤ 0x20) : mapped? j = some [j] := by
  rw [mapped?]
  apply mappedBy?_of_none
  apply CodeTable.range?_eq_none
  intro r hr
  have hlow := above_blanks_of_mem r hr
  omega

theorem mem_of_mapM {α β : Type} {f : α → Option β} {a : α} {b : β} {as : List α} {bs : List β}
    (h : as.mapM f = some bs) (ha : a ∈ as) (hab : f a = some b) : b ∈ bs := by
  induction as generalizing bs with
  | nil => cases ha
  | cons c as ih =>
    simp only [List.mapM_cons, Option.bind_eq_bind, Option.bind_eq_some_iff, Option.pure_def,
      Option.some.injEq] at h
    obtain ⟨d, hd, ds, hds, rfl⟩ := h
    rcases List.mem_cons.mp ha with rfl | ha
    · obtain rfl : d = b := by simpa [hab] using hd.symm
      exact List.mem_cons_self
    · exact List.mem_cons_of_mem _ (ih hds ha)

theorem isForbidden_of_blank (hj : j.toNat ≤ 0x20) : isForbidden j = true := by
  simp [isForbidden, hj]

theorem readLabels_of_blank (hj : j.toNat ≤ 0x20) (h : j ∈ cs) : readLabels cs = none := by
  unfold readLabels
  cases hmapped : cs.mapM mapped? with
  | none => rfl
  | some mapped =>
    have hmem : j ∈ Text.compose mapped.flatten := by
      apply Text.mem_compose_of_blank hj
      exact List.mem_flatten.mpr ⟨[j], mem_of_mapM hmapped h (mapped?_of_blank hj), by simp⟩
    have hforbidden : (Text.compose mapped.flatten).any isForbidden = true :=
      List.any_eq_true.mpr ⟨j, hmem, isForbidden_of_blank hj⟩
    simp only [Option.bind_eq_bind, Option.bind_some, hforbidden, if_true]

theorem toAscii_of_blank (hj : j.toNat ≤ 0x20) (h : j ∈ cs) : toAscii cs = none := by
  rw [toAscii, readLabels_of_blank hj h]
  rfl

end Domain

/-! ### Decoding -/

theorem hexOctet?_of_le (hb : b.toNat ≤ 0x20) : hexOctet? b = none := by
  have hall : ∀ n ≤ 0x20, hexOctet? (UInt8.ofNat n) = none := by decide
  have h := hall b.toNat hb
  rwa [UInt8.ofNat_toNat] at h

theorem mem_percentDecode (hb : b.toNat ≤ 0x20) (h : b ∈ bs) : b ∈ percentDecode bs := by
  have hpercent : b ≠ 0x25 := by
    rintro rfl
    exact absurd hb (by decide)
  fun_induction percentDecode bs with
  | case1 x y rest hx hy hdigit hdigit' ih =>
    -- A digit is no blank.
    have hnone := hexOctet?_of_le hb
    simp only [List.mem_cons] at h
    rcases h with h | rfl | rfl | hrest
    · exact absurd h hpercent
    · rw [hnone] at hdigit'
      cases hdigit'
    · rw [hnone] at hdigit
      cases hdigit
    · exact List.mem_cons_of_mem _ (ih hrest)
  | case2 x y rest _ ih =>
    exact List.mem_cons_of_mem _ (ih ((List.mem_cons.mp h).resolve_left hpercent))
  | case3 c rest _ ih =>
    rcases List.mem_cons.mp h with rfl | hrest
    · exact List.mem_cons_self
    · exact List.mem_cons_of_mem _ (ih hrest)
  | case4 => cases h

theorem first_of_lt (hb : b < 0x80) : first b = .whole (Char.ofNat b.toNat) := if_pos hb

theorem low_of_first {q : Pending} (h : first b = .begun q) : 0x80 ≤ q.low := by
  unfold first at h
  split_ifs at h
  all_goals
    obtain rfl := First.begun.inj h
    dsimp only
    decide

/-- An octet of ASCII among octets that are all read is a character. -/
theorem mem_pieces (hb : b < 0x80) (h : b ∈ bs) (p : Option Pending)
    (hp : ∀ q, p = some q → 0x80 ≤ q.low) (hread : none ∉ pieces p bs) :
    some (Char.ofNat b.toNat) ∈ pieces p bs := by
  induction bs generalizing p with
  | nil => cases h
  | cons c bs ih =>
    cases p with
    | none =>
      unfold pieces at hread ⊢
      cases hfirst : first c with
      | whole d =>
        rw [hfirst] at hread
        simp only [List.mem_cons, reduceCtorEq, false_or] at hread
        rcases List.mem_cons.mp h with rfl | hrest
        · obtain rfl : Char.ofNat b.toNat = d := by simpa [first_of_lt hb] using hfirst
          exact List.mem_cons_self
        · exact List.mem_cons_of_mem _ (ih hrest none (by simp) hread)
      | begun q =>
        rw [hfirst] at hread
        rcases List.mem_cons.mp h with rfl | hrest
        · rw [first_of_lt hb] at hfirst
          cases hfirst
        · exact ih hrest (some q) (fun _ heq => Option.some.inj heq ▸ low_of_first hfirst) hread
      | refused =>
        rw [hfirst] at hread
        exact absurd List.mem_cons_self hread
    | some q =>
      have hlow := hp q rfl
      unfold pieces at hread ⊢
      split at hread
      next hbounds =>
        have hrest : b ∈ bs := by
          refine (List.mem_cons.mp h).resolve_left ?_
          rintro rfl
          exact UInt8.not_lt.mpr (UInt8.le_trans hlow hbounds.1) hb
        rw [if_pos hbounds]
        split at hread
        next howed =>
          rw [if_pos howed]
          simp only [List.mem_cons, reduceCtorEq, false_or] at hread
          exact List.mem_cons_of_mem _ (ih hrest none (by simp) hread)
        next howed =>
          rw [if_neg howed]
          exact ih hrest _ (fun _ heq => Option.some.inj heq ▸ UInt8.le_refl _) hread
      next => exact absurd List.mem_cons_self hread

theorem eq_map_some_of_mapM {os : List (Option Char)} (h : os.mapM id = some cs) :
    os = cs.map some := by
  induction os generalizing cs with
  | nil =>
    cases h
    rfl
  | cons o os ih =>
    simp only [List.mapM_cons, id_eq, Option.bind_eq_bind, Option.bind_eq_some_iff,
      Option.pure_def, Option.some.injEq] at h
    obtain ⟨c, rfl, ds, hds, rfl⟩ := h
    rw [ih hds, List.map_cons]

theorem mem_of_percentDecoded? {text : List Char} (hj : j.toNat ≤ 0x20) (h : j ∈ cs)
    (htext : percentDecoded? cs = some text) : j ∈ text := by
  have hascii : String.utf8EncodeChar j = [j.toNat.toUInt8] :=
    Form.utf8EncodeChar_ascii (by omega)
  have hoctet : j.toNat.toUInt8.toNat = j.toNat := Nat.mod_eq_of_lt (by omega)
  have hmem : j.toNat.toUInt8 ∈ percentDecode (String.ofList cs).toUTF8.toList := by
    apply mem_percentDecode (by rwa [hoctet])
    rw [Text.Utf8.toList_toUTF8, String.toList_ofList, List.mem_flatMap]
    exact ⟨j, h, by simp [hascii]⟩
  unfold percentDecoded? Text.Utf8.strict at htext
  generalize percentDecode (String.ofList cs).toUTF8.toList = octets at *
  rw [Form.toList_mk] at htext
  simp only [Option.map_eq_some_iff] at htext
  obtain ⟨-, ⟨chars, hchars, rfl⟩, rfl⟩ := htext
  have hpieces := eq_map_some_of_mapM hchars
  have hnone : none ∉ pieces none octets := by simp [hpieces]
  have hlt : j.toNat.toUInt8 < 0x80 := by
    rw [UInt8.lt_iff_toNat_lt, hoctet]
    exact Nat.lt_of_le_of_lt hj (by decide)
  have hpiece := mem_pieces hlt hmem none (by simp) hnone
  rw [hpieces, hoctet, Char.ofNat_toNat] at hpiece
  simpa using hpiece

end AgentFleet.Address
