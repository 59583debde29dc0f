import AgentFleet.Proofs.Address.Domain
import AgentFleet.Proofs.Address.Reader

/-!
When a path that is put behind an address of the web is read as one below the address's own path. It
is so just if the address has neither a query nor a fragment and does not end with a slash or a
blank.
-/

namespace AgentFleet.Address

variable {a : Address} {base path : String} {scheme : String} {authority : Authority}
  {c : Char} {cs rest xs ys text blanks : List Char}

/-! ### Blanks behind an authority -/

section Blanks

variable (hblanks : ∀ c ∈ blanks, isBlank c = true)

theorem toNat_le_of_isBlank (h : isBlank c = true) : c.toNat ≤ 0x20 := by simpa [isBlank] using h

include hblanks in
theorem splitUser_append_blanks (cs : List Char) :
    splitUser (cs ++ blanks) = ((splitUser cs).1, (splitUser cs).2 ++ blanks) := by
  have hplain : ∀ c ∈ blanks.reverse, decide (c ≠ '@') = true := by
    intro c hc
    have hblank := hblanks c (List.mem_reverse.mp hc)
    rw [decide_eq_true_eq]
    rintro rfl
    exact absurd hblank (by decide)
  have htake : ((cs ++ blanks).reverse.takeWhile (· ≠ '@')).reverse =
      (cs.reverse.takeWhile (· ≠ '@')).reverse ++ blanks := by
    rw [List.reverse_append, List.takeWhile_append_of_pos hplain, List.reverse_append,
      List.reverse_reverse]
  unfold splitUser
  rw [htake]
  generalize (cs.reverse.takeWhile (· ≠ '@')).reverse = behind
  simp only [List.length_append, Nat.add_left_inj, Nat.add_sub_add_right]
  split_ifs
  · rfl
  · rw [List.take_append_of_le_length (by omega)]

include hblanks in
theorem splitHost_blanks (bracketed : Bool) : splitHost bracketed blanks = (blanks, []) := by
  induction blanks generalizing bracketed with
  | nil => rfl
  | cons c blanks ih =>
    obtain ⟨hc, hblanks⟩ := List.forall_mem_cons.mp hblanks
    have hplain : c ≠ ':' ∧ c ≠ '[' ∧ c ≠ ']' :=
      forall_blank (P := fun c => c ≠ ':' ∧ c ≠ '[' ∧ c ≠ ']') (by decide)
        (toNat_le_of_isBlank hc)
    rw [splitHost, if_neg (fun h => hplain.1 h.1)]
    simp only [hplain, if_false, ih hblanks]

include hblanks in
theorem splitHost_append_blanks (bracketed : Bool) (cs : List Char) :
    splitHost bracketed (cs ++ blanks) = if (splitHost bracketed cs).2 = []
      then ((splitHost bracketed cs).1 ++ blanks, [])
      else ((splitHost bracketed cs).1, (splitHost bracketed cs).2 ++ blanks) := by
  induction cs generalizing bracketed with
  | nil => simp [splitHost_blanks hblanks, splitHost]
  | cons c cs ih =>
    rw [List.cons_append, splitHost, splitHost]
    by_cases hends : c = ':' ∧ ¬ bracketed
    · rw [if_pos hends, if_pos hends, if_neg (List.cons_ne_nil c cs)]
      rfl
    · rw [if_neg hends, if_neg hends]
      simp only [ih]
      split_ifs <;> rfl

theorem hexValue?_of_blank (h : c.toNat ≤ 0x20) : Text.hexValue? c = none :=
  forall_blank (P := (Text.hexValue? · = none)) (by decide) h

theorem digitsIn_of_blank (base : Nat) (hc : c.toNat ≤ 0x20) (h : c ∈ cs) :
    digitsIn base cs = none := by
  unfold digitsIn
  generalize 0 = n
  induction cs generalizing n with
  | nil => cases h
  | cons d cs ih =>
    rw [List.foldlM_cons]
    rcases List.mem_cons.mp h with rfl | h
    · rw [hexValue?_of_blank hc]
      rfl
    · rw [Option.bind_eq_bind, Option.bind_eq_none_iff]
      intro m _
      exact ih h m

theorem ofChars_of_blank_last (hc : c.toNat ≤ 0x20) (h : cs.getLast? = some c) (host : Host) :
    Host.ofChars cs ≠ .ok host := by
  have hmem := List.mem_of_getLast? h
  unfold Host.ofChars
  split
  · cases hmem
  next rest =>
    have hbracket : rest.getLast? ≠ some ']' := by
      intro hrest
      rw [List.getLast?_cons, hrest] at h
      obtain rfl := Option.some.inj h
      exact absurd hc (by decide)
    unfold Host.ofBrackets
    split
    next hrest _ => exact absurd hrest hbracket
    next => exact nofun
  next =>
    have hnone : (percentDecoded? cs).bind Domain.toAscii = none := by
      rw [Option.bind_eq_none_iff]
      intro text htext
      exact Domain.toAscii_of_blank hc (mem_of_percentDecoded? hc hmem htext)
    rw [hnone]
    exact nofun

include hblanks in
/-- Blanks behind an authority would belong to it, and to a host or a port none can. -/
theorem not_names_append_blanks (hne : blanks ≠ []) :
    ¬ Names scheme (text ++ blanks) authority := by
  rintro ⟨host, port, hhost, hport, -⟩
  have hlast := toNat_le_of_isBlank (hblanks _ (List.getLast_mem hne))
  rw [splitUser_append_blanks hblanks, splitHost_append_blanks hblanks] at hhost hport
  split_ifs at hhost hport with hempty
  · refine ofChars_of_blank_last hlast ?_ host hhost
    rw [List.getLast?_append, List.getLast?_eq_some_getLast hne, Option.some_or]
  · -- The colon stands before the blanks, so that these belong to the digits.
    rw [List.drop_append_of_le_length (List.length_pos_of_ne_nil hempty)] at hport
    have hmem := List.mem_append_right ((splitHost false (splitUser text).2).2.drop 1)
      (List.getLast_mem hne)
    rw [readPort, digitsIn_of_blank 10 hlast hmem] at hport
    cases hport

end Blanks

/-! ### Addresses that can be extended -/

/-- A path can be put behind the address: it has neither a query nor a fragment, and it ends neither
with a slash, be it the wrong one, nor with a blank. -/
@[mk_iff]
structure Extensible (base : String) : Prop where
  plain : ∀ c ∈ kept base, c ≠ '?' ∧ c ≠ '#'
  last : ∀ c ∈ (kept base).getLast?, c ≠ '/' ∧ c ≠ '\\' ∧ 0x20 < c.toNat

instance (base : String) : Decidable (Extensible base) :=
  decidable_of_iff ((kept base).all (fun c => c ≠ '?' ∧ c ≠ '#') = true ∧
      (kept base).getLast?.all (fun c => c ≠ '/' ∧ c ≠ '\\' ∧ 0x20 < c.toNat) = true) <| by
    rw [extensible_iff]
    cases (kept base).getLast? <;> simp

theorem endsPath_eq_false_iff : endsPath c = false ↔ c ≠ '?' ∧ c ≠ '#' := by simp [endsPath]

theorem isSlash_eq_false_iff : isSlash true c = false ↔ c ≠ '/' ∧ c ≠ '\\' := by simp [isSlash]

theorem isBlank_eq_false_iff : isBlank c = false ↔ 0x20 < c.toNat := by simp [isBlank]

/-! ### What follows the authority -/

theorem readBehind_nil (hweb : isWeb scheme = true) :
    readBehind scheme authority [] = ⟨scheme, some authority, .parts [[]], none, none⟩ := by
  simp [readBehind, hweb, finish]

theorem readBehind_slash (hweb : isWeb scheme = true) (hc : isSlash true c = true)
    (hxs : ∀ x ∈ xs, endsPath x = false) : readBehind scheme authority (c :: xs) =
      ⟨scheme, some authority, .parts (readParts true xs), none, none⟩ := by
  have hall : ∀ x ∈ c :: xs, (!endsPath x) = true := by
    refine List.forall_mem_cons.mpr ⟨?_, fun x hx => by rw [hxs x hx]; rfl⟩
    simp only [isSlash, Bool.or_eq_true, Bool.true_and, decide_eq_true_eq] at hc
    rcases hc with rfl | rfl <;> rfl
  rw [readBehind, List.takeWhile_eq_self_iff.mpr hall, List.dropWhile_eq_nil_iff.mpr hall]
  simp only [hweb, hc, if_true, finish, List.dropWhile_nil]

/-- A path is not continued behind a query or a fragment. -/
theorem pathText_readBehind_append (h : ∃ c ∈ rest, endsPath c = true) (cs : List Char) :
    (readBehind scheme authority (rest ++ cs)).pathText =
      (readBehind scheme authority rest).pathText := by
  have htake : (rest ++ cs).takeWhile (!endsPath ·) = rest.takeWhile (!endsPath ·) := by
    obtain ⟨c, hc, hends⟩ := h
    rw [List.takeWhile_append, if_neg]
    intro hlength
    have hself := (List.takeWhile_prefix (!endsPath ·)).eq_of_length hlength
    have hplain := List.takeWhile_eq_self_iff.mp hself c hc
    simp [hends] at hplain
  simp only [readBehind, htake]
  rfl

theorem partsText_readParts_of_plain (h : IsPlain ys) :
    partsText (readParts true ys) = '/' :: ys := by
  rw [readParts, h.encoded]
  exact (congrArg partsText (walkWeb_of_no_step h.noStep)).trans h.text

theorem IsPlain.endsPath_eq_false (h : IsPlain ys) : ∀ c ∈ ys, endsPath c = false := by
  intro c hc
  have hplain := h.unescaped c hc
  rw [endsPath_eq_false_iff]
  constructor <;> rintro rfl <;> exact absurd hplain (by decide)

theorem IsPlain.endsPath_cons (h : IsPlain ys) : ∀ c ∈ '/' :: ys, endsPath c = false := by
  rw [List.forall_mem_cons]
  exact ⟨rfl, h.endsPath_eq_false⟩

theorem endsAuthority_of_isBlank (h : isBlank c = true) : endsAuthority true c = false :=
  forall_blank (P := (endsAuthority true · = false)) (by decide) (by simpa [isBlank] using h)

theorem IsPlain.isBlank_eq_false (h : IsPlain ys) : ∀ c ∈ '/' :: ys, isBlank c = false := by
  refine List.forall_mem_cons.mpr ⟨rfl, fun c hc => ?_⟩
  by_contra hblank
  have hle : c.toNat ≤ 0x20 := by simpa [isBlank] using hblank
  have hplain := h.unescaped c hc
  simp [mustEscapeInPath_of_blank hle] at hplain

namespace Layout

theorem exists_path (l : Layout base) (hplain : ∀ c ∈ l.rest, endsPath c = false)
    (hrest : l.rest ≠ []) : ∃ xs,
      (∀ more, (∀ c ∈ more, endsPath c = false) → readBehind l.scheme l.authority (l.rest ++ more) =
        ⟨l.scheme, some l.authority, .parts (readParts true (xs ++ more)), none, none⟩) ∧
      ((∀ c, (l.text ++ l.rest).getLast? = some c → isSlash true c = false) ↔
        ∃ c, xs.getLast? = some c ∧ isSlash true c = false) := by
  obtain ⟨slash, xs, hcons⟩ := List.exists_cons_of_ne_nil hrest
  have hslash : isSlash true slash = true := by
    have hends := l.rest_start slash (by rw [hcons]; rfl)
    simpa [endsAuthority, hplain slash (by simp [hcons])] using hends
  refine ⟨xs, fun more hmore => ?_, ?_⟩
  · rw [hcons, List.cons_append]
    apply readBehind_slash l.web hslash
    intro c hc
    rcases List.mem_append.mp hc with hc | hc
    · exact hplain c (by simp [hcons, hc])
    · exact hmore c hc
  · rw [hcons, List.getLast?_append, List.getLast?_cons]
    cases xs.getLast? <;> simp [hslash]

theorem extensible_iff (l : Layout base) : Extensible base ↔ l.blanks = [] ∧
    (∀ c ∈ l.rest, endsPath c = false) ∧
    ∀ c, (l.text ++ l.rest).getLast? = some c → isSlash true c = false := by
  have hne : l.text ++ l.rest ≠ [] := List.append_ne_nil_of_left_ne_nil l.names.ne_nil _
  have hlast : l.blanks = [] → (kept base).getLast? = (l.text ++ l.rest).getLast? := by
    intro hblanks
    rw [l.kept_eq, hblanks, List.append_nil, List.append_assoc, List.getLast?_append,
      List.getLast?_eq_some_getLast hne, Option.some_or]
  constructor
  · rintro ⟨hplain, hend⟩
    have hblanks : l.blanks = [] := by
      by_contra hblanks
      have hkept : (kept base).getLast? = some (l.blanks.getLast hblanks) := by
        rw [l.kept_eq, List.getLast?_append, List.getLast?_eq_some_getLast hblanks,
          Option.some_or]
      have hblank := l.blanks_blank _ (List.getLast_mem hblanks)
      rw [isBlank_eq_false_iff.mpr (hend _ hkept).2.2] at hblank
      cases hblank
    refine ⟨hblanks, fun c hc => ?_, fun c hc => ?_⟩
    · exact endsPath_eq_false_iff.mpr (hplain c (by simp [l.kept_eq, hc]))
    · obtain ⟨hslash, hbackslash, -⟩ := hend c (by rw [hlast hblanks, hc]; rfl)
      exact isSlash_eq_false_iff.mpr ⟨hslash, hbackslash⟩
  · rintro ⟨hblanks, hplain, hend⟩
    refine ⟨fun c hc => ?_, fun c hc => ?_⟩
    · rw [← endsPath_eq_false_iff]
      rw [l.kept_eq, hblanks, List.append_nil, List.mem_append, List.mem_append] at hc
      rcases hc with (hc | hc) | hc
      · exact l.front_plain c hc
      · exact (Bool.or_eq_false_iff.mp (l.text_plain c hc)).2
      · exact hplain c hc
    · rw [hlast hblanks, Option.mem_def] at hc
      obtain ⟨hslash, hbackslash⟩ := isSlash_eq_false_iff.mp (hend c hc)
      exact ⟨hslash, hbackslash, isBlank_eq_false_iff.mp (l.last c hc)⟩

variable (l : Layout base) (hpath : path.toList = '/' :: ys) (hys : IsPlain ys)

include hpath hys

/-- The authority stays unless it would have to take up blanks. -/
theorem ofText_append_iff (h : l.rest ≠ [] ∨ l.blanks = []) : ofText (base ++ path) = .ok a ↔
    a = readBehind l.scheme l.authority (l.rest ++ (l.blanks ++ '/' :: ys)) := by
  have hstart : ∀ c, (l.rest ++ (l.blanks ++ '/' :: ys)).head? = some c →
      endsAuthority true c = true := by
    have hstart := l.rest_start
    intro c hc
    cases hrest : l.rest with
    | nil =>
      have hblanks := h.resolve_left (not_not_intro hrest)
      obtain rfl : '/' = c := by simpa [hrest, hblanks] using hc
      rfl
    | cons d rest => exact hstart c (by simpa [hrest] using hc)
  rw [l.extended path _ (by rintro rfl; cases hpath) (hpath ▸ hys.isBlank_eq_false), hpath,
    List.append_assoc, List.append_assoc]
  simp only [readAuthority_eq_ok_iff l.web l.text_plain hstart]
  constructor
  · rintro ⟨authority, rest, ⟨hnames, rfl⟩, rfl⟩
    rw [l.names.unique hnames]
  · intro ha
    exact ⟨l.authority, _, ⟨l.names, rfl⟩, ha⟩

theorem blanks_eq_nil (hrest : l.rest = []) (ha : ofText (base ++ path) = .ok a) :
    l.blanks = [] := by
  rw [l.extended path _ (by rintro rfl; cases hpath) (hpath ▸ hys.isBlank_eq_false), hpath, hrest,
    List.append_nil] at ha
  obtain ⟨authority, behind, hread, -⟩ := ha
  have hplain : ∀ c ∈ l.text ++ l.blanks, endsAuthority true c = false := by
    intro c hc
    rcases List.mem_append.mp hc with hc | hc
    · exact l.text_plain c hc
    · exact endsAuthority_of_isBlank (l.blanks_blank c hc)
  have hstart : ∀ c, ('/' :: ys).head? = some c → endsAuthority true c = true := by
    simp [endsAuthority, isSlash]
  rw [readAuthority_eq_ok_iff l.web hplain hstart] at hread
  by_contra hblanks
  exact not_names_append_blanks l.blanks_blank hblanks hread.1

end Layout

section Joined

variable (l : Layout base) (hpath : path.toList = '/' :: ys) (hys : IsPlain ys)

include hpath hys

/-- A path that is put behind an address is read below its path, and all else stays. -/
theorem Extensible.ofText_append (h : Extensible base) :
    ∃ a, ofText (base ++ path) = .ok a ∧ a.scheme = l.address.scheme ∧
      a.authority = l.address.authority ∧
      a.pathText = stem l.address.pathText ++ path.toList ∧ a.query = none ∧ a.fragment = none := by
  obtain ⟨hblanks, hplain, hlast⟩ := l.extensible_iff.mp h
  refine ⟨_, (l.ofText_append_iff hpath hys (.inr hblanks)).mpr rfl, ?_⟩
  rw [hpath, hblanks, List.nil_append, Layout.address]
  by_cases hrest : l.rest = []
  · rw [hrest, List.nil_append, readBehind_slash l.web rfl hys.endsPath_eq_false,
      readBehind_nil l.web]
    exact ⟨rfl, rfl, partsText_readParts_of_plain hys, rfl, rfl⟩
  · obtain ⟨xs, hread, hend⟩ := l.exists_path hplain hrest
    have hbefore := hread [] (List.forall_mem_nil _)
    have hnone : ∀ j ∈ ([] : List Char), j.toNat ≤ 0x20 := List.forall_mem_nil _
    have htext := (partsText_readParts_append_iff hnone hys).mpr ⟨rfl, hend.mp hlast⟩
    rw [List.append_nil, List.append_nil] at hbefore
    rw [List.append_nil] at htext
    rw [hread _ hys.endsPath_cons, hbefore]
    exact ⟨rfl, rfl, htext, rfl, rfl⟩

/-- Where the path is read below the address's path, it could be put behind it. -/
theorem extensible_of_pathText (hne : ys ≠ []) (ha : ofText (base ++ path) = .ok a)
    (htext : a.pathText = stem l.address.pathText ++ path.toList) : Extensible base := by
  rw [l.extensible_iff]
  by_cases hrest : l.rest = []
  · refine ⟨l.blanks_eq_nil hpath hys hrest ha, ?_, fun c hc => ?_⟩
    · rw [hrest]
      exact List.forall_mem_nil _
    · rw [hrest, List.append_nil] at hc
      exact (Bool.or_eq_false_iff.mp (l.text_plain c (List.mem_of_getLast? hc))).1
  · obtain rfl := (l.ofText_append_iff hpath hys (.inl hrest)).mp ha
    rw [hpath, Layout.address] at htext
    by_cases hplain : ∀ c ∈ l.rest, endsPath c = false
    · obtain ⟨xs, hread, hend⟩ := l.exists_path hplain hrest
      have hbefore := hread [] (List.forall_mem_nil _)
      have hmore : ∀ c ∈ l.blanks ++ '/' :: ys, endsPath c = false := by
        intro c hc
        rcases List.mem_append.mp hc with hc | hc
        · exact (Bool.or_eq_false_iff.mp (endsAuthority_of_isBlank (l.blanks_blank c hc))).2
        · exact hys.endsPath_cons c hc
      have hblank : ∀ j ∈ l.blanks, j.toNat ≤ 0x20 := by
        intro j hj
        exact toNat_le_of_isBlank (l.blanks_blank j hj)
      rw [List.append_nil, List.append_nil] at hbefore
      rw [hread _ hmore, hbefore, ← List.append_assoc] at htext
      obtain ⟨hblanks, hxs⟩ := (partsText_readParts_append_iff hblank hys).mp htext
      exact ⟨hblanks, hplain, hend.mpr hxs⟩
    · -- The path is part of a query or a fragment, and the address's own path is longer.
      have hends : ∃ c ∈ l.rest, endsPath c = true := by simpa using hplain
      rw [pathText_readBehind_append hends] at htext
      have hlength := congrArg List.length htext
      have hstem := length_le_stem (readBehind l.scheme l.authority l.rest).pathText
      have hys := List.length_pos_of_ne_nil hne
      rw [List.length_append, List.length_cons] at hlength
      omega

end Joined

end AgentFleet.Address
