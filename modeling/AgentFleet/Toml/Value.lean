import AgentFleet.Decimal.Layout
import AgentFleet.Wire.Mismatch

/-!
Values of TOML documents. The entries of a table are in the order of the document, each name once.
-/

namespace AgentFleet

inductive Toml where
  | string (s : String)
  | integer (n : Int)
  | float (d : Double)
  | boolean (b : Bool)
  /-- A date, a time of day, or both; which ones is not kept. -/
  | datetime
  | array (elements : List Toml)
  | table (entries : List (String × Toml))
  deriving Repr, Inhabited

namespace Toml

/-! ### Equality -/

mutual

def same : Toml → Toml → Bool
  | string s, string t => s = t
  | integer n, integer m => n = m
  | float d, float e => d = e
  | boolean b, boolean c => b = c
  | datetime, datetime => true
  | array vs, array ws => sameElements vs ws
  | table vs, table ws => sameEntries vs ws
  | _, _ => false

def sameElements : List Toml → List Toml → Bool
  | [], [] => true
  | v :: vs, w :: ws => same v w && sameElements vs ws
  | _, _ => false

def sameEntries : List (String × Toml) → List (String × Toml) → Bool
  | [], [] => true
  | (name, v) :: vs, (name', w) :: ws => name = name' && same v w && sameEntries vs ws
  | _, _ => false

end

mutual

theorem same_iff (v w : Toml) : same v w = true ↔ v = w := by
  match v with
  | array vs => cases w <;> simp [same, sameElements_iff vs]
  | table vs => cases w <;> simp [same, sameEntries_iff vs]
  | string _ | integer _ | float _ | boolean _ | datetime => cases w <;> simp [same]

theorem sameElements_iff (vs ws : List Toml) : sameElements vs ws = true ↔ vs = ws := by
  match vs with
  | [] => cases ws <;> simp [sameElements]
  | v :: vs => cases ws <;> simp [sameElements, same_iff v, sameElements_iff vs]

theorem sameEntries_iff (vs ws : List (String × Toml)) : sameEntries vs ws = true ↔ vs = ws := by
  match vs with
  | [] => cases ws <;> simp [sameEntries]
  | (name, v) :: vs => cases ws <;> simp [sameEntries, same_iff v, sameEntries_iff vs, Prod.ext_iff]

end

instance : DecidableEq Toml := fun v w => decidable_of_iff _ (same_iff v w)

end Toml

/-- What a value is, as messages say it. A date counts as a map. -/
def Toml.found : Toml → Wire.Found
  | string s => .string s
  | integer n => .integer n
  | float d => .float (Decimal.Layout.plain.double d)
  | boolean b => .bool b
  | datetime => .map
  | array _ => .sequence
  | table _ => .map

end AgentFleet
