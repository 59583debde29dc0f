import Mathlib.Data.List.Basic
import Mathlib.Tactic.IntervalCases
import AgentFleet.Address.Path
import AgentFleet.Proofs.Address.Form

/-!
What becomes of a path when more is put behind it. The parts that were there are walked first, so
that the last one of them decides whether the new ones are put below it: it has to be the last one
still, and not an empty one.
-/

namespace AgentFleet.Address

variable {web : Bool} {c : Char} {cs ds js xs ys : List Char} {part last : List Char}
  {above ps qs : List (List Char)} {enter : List (List Char) → List Char → List Char}

/-! ### Parts -/

theorem splitSlashes_cons_slash (h : isSlash web c = true) (cs : List Char) :
    splitSlashes web (c :: cs) = [] :: splitSlashes web cs := by simp [splitSlashes, h]

theorem splitSlashes_cons (h : isSlash web c = false) (hcs : splitSlashes web cs = part :: ps) :
    splitSlashes web (c :: cs) = (c :: part) :: ps := by simp [splitSlashes, h, hcs]

theorem splitSlashes_of_no_slash (h : ∀ c ∈ cs, isSlash web c = false) :
    splitSlashes web cs = [cs] := by
  induction cs with
  | nil => rfl
  | cons c cs ih =>
    rw [List.forall_mem_cons] at h
    exact splitSlashes_cons h.1 (ih h.2)

/-- All parts but the last are settled; what is put behind belongs to the last one, until a slash
comes. -/
theorem exists_splitSlashes (web : Bool) (cs : List Char) :
    ∃ ps last, splitSlashes web cs = ps ++ [last] ∧ (∀ c ∈ last, isSlash web c = false) ∧
      ∀ ds, (∀ d ∈ ds, isSlash web d = false) →
        splitSlashes web (cs ++ ds) = ps ++ [last ++ ds] ∧
        ∀ slash, isSlash web slash = true → ∀ ys,
          splitSlashes web (cs ++ ds ++ slash :: ys) =
            ps ++ (last ++ ds) :: splitSlashes web ys := by
  induction cs with
  | nil =>
    refine ⟨[], [], rfl, by simp, fun ds hds => ?_⟩
    refine ⟨splitSlashes_of_no_slash hds, fun slash hslash ys => ?_⟩
    induction ds with
    | nil => exact splitSlashes_cons_slash hslash ys
    | cons d ds ih =>
      rw [List.forall_mem_cons] at hds
      exact splitSlashes_cons hds.1 (ih hds.2)
  | cons c cs ih =>
    obtain ⟨ps, last, hsplit, hlast, hmore⟩ := ih
    by_cases hc : isSlash web c = true
    · refine ⟨[] :: ps, last, ?_, hlast, fun ds hds => ?_⟩
      · rw [splitSlashes_cons_slash hc, hsplit, List.cons_append]
      · obtain ⟨hend, hrest⟩ := hmore ds hds
        refine ⟨?_, fun slash hslash ys => ?_⟩
        · rw [List.cons_append, splitSlashes_cons_slash hc, hend, List.cons_append]
        · rw [List.cons_append, List.cons_append, splitSlashes_cons_slash hc,
            hrest slash hslash ys, List.cons_append]
    · rw [Bool.not_eq_true] at hc
      cases ps with
      | nil =>
        refine ⟨[], c :: last, splitSlashes_cons hc hsplit, ?_, fun ds hds => ?_⟩
        · exact List.forall_mem_cons.mpr ⟨hc, hlast⟩
        · obtain ⟨hend, hrest⟩ := hmore ds hds
          exact ⟨splitSlashes_cons hc hend, fun slash hslash ys =>
            splitSlashes_cons hc (hrest slash hslash ys)⟩
      | cons p ps =>
        refine ⟨(c :: p) :: ps, last, splitSlashes_cons hc hsplit, hlast, fun ds hds => ?_⟩
        obtain ⟨hend, hrest⟩ := hmore ds hds
        exact ⟨splitSlashes_cons hc hend, fun slash hslash ys =>
          splitSlashes_cons hc (hrest slash hslash ys)⟩

theorem splitSlashes_ne_nil (web : Bool) (cs : List Char) : splitSlashes web cs ≠ [] := by
  obtain ⟨ps, last, hsplit, -⟩ := exists_splitSlashes web cs
  simp [hsplit]

/-! ### Steps -/

def descend (above : List (List Char)) (part : List Char) : List (List Char) :=
  if isUp part then stepUp above else if isHere part then above else part :: above

/-- Whether a part is a step, and names nothing. -/
def isStep (part : List Char) : Bool := isUp part || isHere part

theorem descend_of_no_step (h : isStep part = false) (above : List (List Char)) :
    descend above part = part :: above := by
  rw [isStep, Bool.or_eq_false_iff] at h
  simp [descend, h.1, h.2]

/-- The parts of a path as they are put below one another on the web. -/
def walkWeb (above ps : List (List Char)) : List (List Char) := walk (fun _ part => part) above ps

theorem walkWeb_append (hqs : qs ≠ []) :
    walkWeb above (ps ++ qs) = walkWeb (ps.foldl descend above) qs := by
  induction ps generalizing above with
  | nil => rfl
  | cons p ps ih =>
    have hrest : ps ++ qs ≠ [] := by simp [hqs]
    rw [List.cons_append, List.foldl_cons, ← ih, walkWeb, walk, descend]
    split_ifs <;> rfl

theorem walkWeb_singleton : walkWeb above [last] =
    (descend above last).reverse ++ if isStep last then [[]] else [] := by
  rw [walkWeb, walk, descend, isStep]
  by_cases hup : isUp last = true <;> by_cases hhere : isHere last = true <;>
    simp [hup, hhere, walk]

theorem walkWeb_of_no_step (h : ∀ q ∈ qs, isStep q = false) :
    walkWeb above qs = above.reverse ++ qs := by
  induction qs generalizing above with
  | nil => simp [walkWeb, walk]
  | cons q qs ih =>
    rw [List.forall_mem_cons, isStep, Bool.or_eq_false_iff] at h
    have hwalk : walkWeb above (q :: qs) = walkWeb (q :: above) qs := by
      simp [walkWeb, walk, h.1.1, h.1.2]
    rw [hwalk, ih h.2]
    simp

/-! ### Encoding -/

theorem percentEncode_append (f : Char → Bool) (cs ds : List Char) :
    percentEncode f (cs ++ ds) = percentEncode f cs ++ percentEncode f ds := List.flatMap_append

theorem percentEncode_cons (f : Char → Bool) (c : Char) (cs : List Char) :
    percentEncode f (c :: cs) = (if f c then percentChar c else [c]) ++ percentEncode f cs := rfl

theorem percentEncode_ne_nil (f : Char → Bool) (h : cs ≠ []) : percentEncode f cs ≠ [] := by
  cases cs with
  | nil => exact absurd rfl h
  | cons c cs =>
    have hoctets : String.utf8EncodeChar c ≠ [] := by
      unfold String.utf8EncodeChar
      extract_lets
      split_ifs <;> simp
    obtain ⟨b, bs, hb⟩ := List.exists_cons_of_ne_nil hoctets
    rw [percentEncode_cons]
    split_ifs
    · simp [percentChar, hb, percentOctet]
    · simp

theorem isSlash_upperHexDigit {n : Nat} (h : n < 16) : isSlash web (upperHexDigit n) = false := by
  cases web <;> interval_cases n <;> decide

theorem isSlash_of_mem_percentChar {d : Char} (h : c ∈ percentChar d) :
    isSlash web c = false := by
  obtain ⟨b, -, hmem⟩ := List.mem_flatMap.mp h
  have hb : b.toNat < 256 := b.toNat_lt
  simp only [percentOctet, List.mem_cons, List.not_mem_nil, or_false] at hmem
  rcases hmem with rfl | rfl | rfl
  · cases web <;> decide
  · exact isSlash_upperHexDigit (by omega)
  · exact isSlash_upperHexDigit (by omega)

theorem percentEncode_no_slash {f : Char → Bool} (h : ∀ c ∈ cs, isSlash web c = false) :
    ∀ c ∈ percentEncode f cs, isSlash web c = false := by
  intro c hc
  obtain ⟨d, hd, hmem⟩ := List.mem_flatMap.mp hc
  split at hmem
  · exact isSlash_of_mem_percentChar hmem
  · obtain rfl := List.mem_singleton.mp hmem
    exact h c hd

theorem percentChar_ascii (h : c.toNat < 0x80) :
    percentChar c = ['%', upperHexDigit (c.toNat / 16), upperHexDigit (c.toNat % 16)] := by
  have hoctet : c.toNat.toUInt8.toNat = c.toNat := Nat.mod_eq_of_lt (by omega)
  rw [percentChar, Form.utf8EncodeChar_ascii h, List.flatMap_singleton, percentOctet, hoctet]

theorem forall_blank {P : Char → Prop} (h : ∀ n ≤ 0x20, P (Char.ofNat n)) (hc : c.toNat ≤ 0x20) :
    P c := by
  rw [← Char.ofNat_toNat c]
  exact h c.toNat hc

theorem mustEscapeInPath_of_blank : c.toNat ≤ 0x20 → mustEscapeInPath c = true :=
  forall_blank (P := (mustEscapeInPath · = true)) (by decide)

theorem isSlash_of_blank : c.toNat ≤ 0x20 → isSlash true c = false :=
  forall_blank (P := (isSlash true · = false)) (by decide)

theorem isStep_append_octet {a b : Char} (h : ¬ (a.toLower = '2' ∧ b.toLower = 'e'))
    (part : List Char) : isStep (part ++ ['%', a, b]) = false := by
  have hends : ∀ step ∈ ["..", "%2e%2e", "%2e.", ".%2e", ".", "%2e"],
      Text.lowerAscii (String.ofList (part ++ ['%', a, b])) ≠ step := by
    intro step hstep heq
    have hlower : part.map Char.toLower ++ ['%', a.toLower, b.toLower] = step.toList := by
      rw [← heq, Text.lowerAscii, String.toList_ofList, String.toList_ofList, List.map_append]
      rfl
    have hlast : step.toList.drop (step.toList.length - 3) = ['%', a.toLower, b.toLower] := by
      rw [← hlower]
      simp
    have hcases : ∀ step ∈ ["..", "%2e%2e", "%2e.", ".%2e", ".", "%2e"],
        step.toList.drop (step.toList.length - 3) = ['%', '2', 'e'] ∨
          (step.toList.drop (step.toList.length - 3)).head? ≠ some '%' ∨
          (step.toList.drop (step.toList.length - 3)).length ≠ 3 := by decide
    rcases hcases step hstep with hall | hhead | hlength
    · rw [hlast] at hall
      simp only [List.cons.injEq, true_and, and_true] at hall
      exact h hall
    · rw [hlast] at hhead
      exact hhead rfl
    · rw [hlast] at hlength
      exact hlength rfl
  simp only [isStep, isUp, isHere, Bool.or_eq_false_iff, List.contains_eq_mem,
    decide_eq_false_iff_not]
  constructor
  · intro hmem
    exact hends _ (List.mem_append_left [".", "%2e"] hmem) rfl
  · intro hmem
    exact hends _ (List.mem_append_right ["..", "%2e%2e", "%2e.", ".%2e"] hmem) rfl

/-- A part that ends with an encoded blank is no step. -/
theorem isStep_append_blanks (h : ∀ j ∈ js, j.toNat ≤ 0x20) (hjs : js ≠ []) (part : List Char) :
    isStep (part ++ percentEncode mustEscapeInPath js) = false := by
  obtain ⟨front, j, rfl⟩ := (List.eq_nil_or_concat' js).resolve_left hjs
  have hj : j.toNat ≤ 0x20 := h j (by simp)
  have hdigits : ∀ n ≤ 0x20, ¬ ((upperHexDigit (n / 16)).toLower = '2' ∧
      (upperHexDigit (n % 16)).toLower = 'e') := by decide
  rw [percentEncode_append, percentEncode_cons, mustEscapeInPath_of_blank hj, if_pos rfl,
    percentChar_ascii (by omega), ← List.append_assoc]
  exact isStep_append_octet (hdigits j.toNat hj) _

/-- The last part is empty just if there is nothing behind the last slash. -/
theorem getLast?_splitSlashes_percentEncode (xs : List Char) :
    (splitSlashes true (percentEncode mustEscapeInPath xs)).getLast? = some [] ↔
      ∀ c, xs.getLast? = some c → isSlash true c = true := by
  rcases List.eq_nil_or_concat' xs with rfl | ⟨front, c, rfl⟩
  · simp [percentEncode, splitSlashes]
  · obtain ⟨ps, last, -, -, hmore⟩ :=
      exists_splitSlashes true (percentEncode mustEscapeInPath front)
    rw [percentEncode_append, List.getLast?_append, List.getLast?_singleton]
    by_cases hc : isSlash true c = true
    · have hplain : percentEncode mustEscapeInPath [c] = [c] := by
        simp only [isSlash, Bool.or_eq_true, decide_eq_true_eq, Bool.true_and] at hc
        rcases hc with rfl | rfl <;> decide
      have hsplit := (hmore [] (List.forall_mem_nil _)).2 c hc []
      rw [List.append_nil] at hsplit
      rw [hplain, hsplit]
      simp [splitSlashes, hc]
    · have hnoslash : ∀ d ∈ percentEncode mustEscapeInPath [c], isSlash true d = false :=
        percentEncode_no_slash (by simpa using hc)
      have hne := percentEncode_ne_nil mustEscapeInPath (List.cons_ne_nil c [])
      rw [(hmore _ hnoslash).1]
      simp [hne, hc]

/-! ### Paths -/

def partsText (ps : List (List Char)) : List Char := (Path.parts ps).text

/-- A text without a slash at its end. -/
def stem (text : List Char) : List Char :=
  if text.getLast? = some '/' then text.dropLast else text

/-- A path behind its first slash that stands for itself and takes no steps. -/
@[mk_iff]
structure IsPlain (path : List Char) : Prop where
  unescaped : ∀ c ∈ path, mustEscapeInPath c = false
  noStep : ∀ part ∈ splitSlashes true path, isStep part = false
  text : partsText (splitSlashes true path) = '/' :: path

instance (path : List Char) : Decidable (IsPlain path) :=
  decidable_of_iff (path.all (!mustEscapeInPath ·) = true ∧
      (splitSlashes true path).all (!isStep ·) = true ∧
      partsText (splitSlashes true path) = '/' :: path) <| by simp [isPlain_iff]

@[simp] theorem partsText_append (ps qs : List (List Char)) :
    partsText (ps ++ qs) = partsText ps ++ partsText qs := List.flatMap_append

@[simp] theorem partsText_singleton (part : List Char) : partsText [part] = '/' :: part := by
  simp [partsText, Path.text]

theorem IsPlain.encoded (h : IsPlain cs) : percentEncode mustEscapeInPath cs = cs := by
  have hunescaped := h.unescaped
  clear h
  induction cs with
  | nil => rfl
  | cons c cs ih =>
    rw [List.forall_mem_cons] at hunescaped
    rw [percentEncode_cons, hunescaped.1, ih hunescaped.2]
    rfl

theorem stem_append_slash (text : List Char) : stem (text ++ ['/']) = text := by simp [stem]

theorem length_le_stem (text : List Char) : text.length ≤ (stem text).length + 1 := by
  unfold stem
  split_ifs
  · rw [List.length_dropLast]
    omega
  · omega

theorem length_descend_le (above : List (List Char)) (part : List Char) :
    (partsText (descend above part).reverse).length ≤
      (partsText above.reverse).length + (part.length + 1) := by
  have hup : (partsText (stepUp above).reverse).length ≤ (partsText above.reverse).length := by
    cases above with
    | nil => exact le_rfl
    | cons last above =>
      rw [stepUp]
      split_ifs <;> simp
  unfold descend
  split_ifs
  · omega
  · omega
  · simp

theorem stem_partsText_walkWeb_singleton (hlast : ∀ c ∈ last, isSlash true c = false) :
    stem (partsText (walkWeb above [last])) =
      if last = [] then partsText above.reverse else partsText (descend above last).reverse := by
  rw [walkWeb_singleton, partsText_append]
  by_cases hstep : isStep last = true
  · have hne : last ≠ [] := by
      rintro rfl
      exact absurd hstep (by decide)
    simp only [hstep, hne, reduceIte, partsText_singleton, stem_append_slash]
  · have hdescend := descend_of_no_step (Bool.not_eq_true _ ▸ hstep) above
    have htext : partsText (last :: above).reverse = partsText above.reverse ++ '/' :: last := by
      simp
    simp only [hstep, Bool.false_eq_true, reduceIte, hdescend, htext]
    rw [show partsText [] = [] from rfl, List.append_nil]
    rcases List.eq_nil_or_concat' last with rfl | ⟨front, c, rfl⟩
    · exact stem_append_slash _
    · have hc : c ≠ '/' := by
        rintro rfl
        exact absurd (hlast '/' (by simp)) (by decide)
      have hend : (partsText above.reverse ++ '/' :: (front ++ [c])).getLast? ≠ some '/' := by
        rw [← List.cons_append, ← List.append_assoc, List.getLast?_append]
        simpa using hc
      rw [stem, if_neg hend, if_neg (by simp)]

/-- A path leads to its last part from where those before it lead to; what is put behind it with
blanks between belongs to that part up to the next slash. -/
theorem exists_readParts (xs : List Char) : ∃ above last,
    readParts true xs = walkWeb above [last] ∧ (∀ c ∈ last, isSlash true c = false) ∧
    (last ≠ [] ↔ ∃ c, xs.getLast? = some c ∧ isSlash true c = false) ∧
    ∀ js ys, (∀ j ∈ js, j.toNat ≤ 0x20) → IsPlain ys →
      partsText (readParts true (xs ++ js ++ '/' :: ys)) =
        partsText (descend above (last ++ percentEncode mustEscapeInPath js)).reverse
          ++ '/' :: ys := by
  obtain ⟨ps, last, hsplit, hlast, hmore⟩ :=
    exists_splitSlashes true (percentEncode mustEscapeInPath xs)
  have hempty := getLast?_splitSlashes_percentEncode xs
  refine ⟨ps.foldl descend [], last, ?_, hlast, ?_, fun js ys hjs hys => ?_⟩
  · rw [readParts, hsplit]
    exact walkWeb_append (List.cons_ne_nil _ _)
  · rw [hsplit, List.getLast?_concat, Option.some_inj] at hempty
    rw [ne_eq, hempty]
    simp
  · have hblanks : ∀ c ∈ percentEncode mustEscapeInPath js, isSlash true c = false := by
      apply percentEncode_no_slash
      intro j hj
      exact isSlash_of_blank (hjs j hj)
    have hencode : percentEncode mustEscapeInPath (xs ++ js ++ '/' :: ys) =
        percentEncode mustEscapeInPath xs ++ percentEncode mustEscapeInPath js ++ '/' :: ys := by
      rw [percentEncode_append, percentEncode_append, percentEncode_cons, hys.encoded]
      rfl
    have hwalk : readParts true (xs ++ js ++ '/' :: ys) =
        walkWeb [] (ps ++ [last ++ percentEncode mustEscapeInPath js] ++ splitSlashes true ys) := by
      rw [readParts, hencode, (hmore _ hblanks).2 '/' rfl, List.append_assoc]
      rfl
    rw [hwalk, walkWeb_append (splitSlashes_ne_nil _ _), walkWeb_of_no_step hys.noStep,
      partsText_append, hys.text, List.foldl_append]
    rfl

/-- A part with blanks behind it leads to another place than the part itself, and an empty part to
another one than none. -/
theorem partsText_descend_eq_iff (hjs : ∀ j ∈ js, j.toNat ≤ 0x20) :
    partsText (descend above (last ++ percentEncode mustEscapeInPath js)).reverse =
      (if last = [] then partsText above.reverse else partsText (descend above last).reverse) ↔
    js = [] ∧ last ≠ [] := by
  constructor
  · intro heq
    have hlength := congrArg List.length heq
    by_cases hne : js = []
    · subst hne
      refine ⟨rfl, ?_⟩
      rintro rfl
      rw [descend_of_no_step (by decide)] at hlength
      simp at hlength
    · have hencoded := List.length_pos_of_ne_nil (percentEncode_ne_nil mustEscapeInPath hne)
      have hshort := length_descend_le above last
      rw [descend_of_no_step (isStep_append_blanks hjs hne last)] at hlength
      split_ifs at hlength
      · simp at hlength
      · simp at hlength
        omega
  · rintro ⟨rfl, hne⟩
    simp [percentEncode, hne]

/-- What is put behind a path stands below it just if the path does not end with a slash and nothing
comes between. -/
theorem partsText_readParts_append_iff (hjs : ∀ j ∈ js, j.toNat ≤ 0x20) (hys : IsPlain ys) :
    partsText (readParts true (xs ++ js ++ '/' :: ys)) =
      stem (partsText (readParts true xs)) ++ '/' :: ys ↔
    js = [] ∧ ∃ c, xs.getLast? = some c ∧ isSlash true c = false := by
  obtain ⟨above, last, hbefore, hlast, hne, hafter⟩ := exists_readParts xs
  rw [hafter js ys hjs hys, hbefore, stem_partsText_walkWeb_singleton hlast,
    List.append_left_inj, partsText_descend_eq_iff hjs, hne]

end AgentFleet.Address
