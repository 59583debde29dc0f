/-!
Classes of characters. Letters other than `A` to `Z` have no small form under the rules of ASCII. A
character is blank if it has the Unicode property `White_Space`: 25 code points, among them the
no-break space and the ideographic space, but neither the zero-width space nor the byte order mark.
-/

namespace AgentFleet.Text

/-! ### Characters of ASCII -/

def lowerAscii (s : String) : String := String.ofList (s.toList.map Char.toLower)

def isAsciiDigit (c : Char) : Bool := '0' ≤ c && c ≤ '9'

def isAsciiLetter (c : Char) : Bool := ('a' ≤ c && c ≤ 'z') || ('A' ≤ c && c ≤ 'Z')

def isAscii (c : Char) : Bool := c.toNat < 0x80

/-- Whether a character is of ASCII and no control character, tabs apart. -/
def isAsciiText (c : Char) : Bool := c = '\t' || (0x20 ≤ c.toNat && c.toNat < 0x7F)

def hexValue? (c : Char) : Option Nat :=
  if '0' ≤ c ∧ c ≤ '9' then some (c.toNat - 48)
  else if 'a' ≤ c ∧ c ≤ 'f' then some (c.toNat - 87)
  else if 'A' ≤ c ∧ c ≤ 'F' then some (c.toNat - 55)
  else none

/-! ### Blank characters -/

/-- Whether a character has the Unicode property `White_Space`. -/
def isBlank (c : Char) : Bool :=
  let n := c.toNat
  (0x9 ≤ n && n ≤ 0xD) || n == 0x20 || n == 0x85 || n == 0xA0 || n == 0x1680
    || (0x2000 ≤ n && n ≤ 0x200A) || n == 0x2028 || n == 0x2029 || n == 0x202F || n == 0x205F
    || n == 0x3000

def trimLeft (cs : List Char) : List Char := cs.dropWhile isBlank

def trimChars (cs : List Char) : List Char := (trimLeft (trimLeft cs).reverse).reverse

def trim (s : String) : String := String.ofList (trimChars s.toList)

def IsBlank (s : String) : Prop := ∀ c ∈ s.toList, isBlank c = true

instance (s : String) : Decidable (IsBlank s) :=
  List.decidableBAll (fun c => isBlank c = true) s.toList

@[simp] theorem trimChars_nil : trimChars [] = [] := rfl

theorem trimLeft_eq_nil_iff {cs : List Char} : trimLeft cs = [] ↔ ∀ c ∈ cs, isBlank c = true := by
  induction cs with
  | nil => simp [trimLeft]
  | cons c cs ih => by_cases h : isBlank c = true <;> simp_all [trimLeft]

theorem isBlank_head_trimLeft {cs rest : List Char} {c : Char} (h : trimLeft cs = c :: rest) :
    isBlank c = false := by
  induction cs with
  | nil => simp [trimLeft] at h
  | cons d cs ih =>
    by_cases hd : isBlank d = true
    · exact ih (by simpa [trimLeft, List.dropWhile_cons, hd] using h)
    · simp only [trimLeft, List.dropWhile_cons, hd] at h
      grind

theorem trimChars_eq_nil_iff {cs : List Char} : trimChars cs = [] ↔ ∀ c ∈ cs, isBlank c = true := by
  simp only [trimChars, List.reverse_eq_nil_iff, trimLeft_eq_nil_iff, List.mem_reverse]
  constructor
  · intro h
    rw [← trimLeft_eq_nil_iff]
    cases hd : trimLeft cs with
    | nil => rfl
    | cons a l => simpa [isBlank_head_trimLeft hd] using h a (by simp [hd])
  · intro h c hc
    exact h c ((List.dropWhile_sublist isBlank).mem hc)

theorem trim_eq_empty_iff {s : String} : trim s = "" ↔ IsBlank s := by
  rw [IsBlank, ← trimChars_eq_nil_iff, trim]
  constructor
  · intro h
    have := congrArg String.toList h
    simpa using this
  · intro h
    simp [h]

end AgentFleet.Text
