import AgentFleet.Toml.Decoder

/-!
Documents with other values in the place of some. If each field reads from the other value what it
read from the first one, changed likewise, then so does the whole record, be it a table or an array.
-/

namespace AgentFleet.Toml

open Decoder

variable {σ α : Type}

theorem bind_eq_ok_iff {ε β : Type} {x : Except ε α} {f : α → Except ε β} {b : β} :
    (x >>= f) = .ok b ↔ ∃ a, x = .ok a ∧ f a = .ok b := by
  cases x with
  | error e => exact ⟨nofun, nofun⟩
  | ok a => exact ⟨fun h => ⟨a, rfl, h⟩, fun ⟨_, ha, h⟩ => Except.ok.inj ha ▸ h⟩

namespace Decoder.Field

/-- From the other value the field reads what it read from the first one, changed likewise. -/
def Follows (change : String → Toml → Toml) (f : σ → σ) (field : Field σ) : Prop :=
  ∀ draft v next, field.read draft v = .ok next →
    field.read (f draft) (change field.name v) = .ok (f next)

variable {β : Type} {change : String → Toml → Toml} {f : σ → σ} {name : String} {item : Decoder β}
  {put : β → σ → σ} {mayEnd : Bool}

theorem follows_of (h : ∀ v b, item v = .ok b →
    ∃ b', item (change name v) = .ok b' ∧ ∀ draft, put b' (f draft) = f (put b draft)) :
    (Field.of name item put mayEnd).Follows change f := by
  intro draft v next hread
  dsimp only [Field.of] at hread ⊢
  cases hitem : item v with
  | error m => simp [hitem, Functor.map, Except.map] at hread
  | ok b =>
    obtain ⟨b', hitem', hput⟩ := h v b hitem
    rw [hitem] at hread
    rw [hitem', ← Except.ok.inj hread, ← hput]
    rfl

theorem follows_same (hsame : ∀ v, change name v = v)
    (hput : ∀ b draft, put b (f draft) = f (put b draft)) :
    (Field.of name item put mayEnd).Follows change f :=
  follows_of fun v b hitem => ⟨b, (hsame v).symm ▸ hitem, hput b⟩

end Decoder.Field

namespace Decoder.Record

def changeInOrder (change : String → Toml → Toml) : List (Field σ) → List Toml → List Toml
  | _, [] => []
  | [], rest => rest
  | field :: fields, v :: rest => change field.name v :: changeInOrder change fields rest

theorem changeInOrder_nil (change : String → Toml → Toml) (fields : List (Field σ)) :
    changeInOrder change fields [] = [] := by
  cases fields <;> rfl

def change (r : Record σ α) (change : String → Toml → Toml) : Toml → Toml
  | .table entries => .table (entries.map fun (name, v) => (name, change name v))
  | .array elements => .array (changeInOrder change r.fields elements)
  | v => v

section Change

variable {r : Record σ α} {change : String → Toml → Toml} {f : σ → σ} {g : α → α}

theorem byName_change (h : ∀ field ∈ r.fields, field.Follows change f)
    {entries : List (String × Toml)} {draft last : σ} (hread : r.byName entries draft = .ok last) :
    r.byName (entries.map fun (name, v) => (name, change name v)) (f draft) = .ok (f last) := by
  induction entries generalizing draft with
  | nil =>
    obtain rfl := Except.ok.inj hread
    rfl
  | cons entry entries ih =>
    obtain ⟨name, v⟩ := entry
    rw [List.map_cons, byName]
    rw [byName] at hread
    cases hfield : r.fields.find? (·.name == name) with
    | none =>
      rw [hfield] at hread
      exact ih hread
    | some field =>
      rw [hfield] at hread
      have hname : field.name = name := by simpa using List.find?_some hfield
      obtain ⟨next, hnext, hrest⟩ := bind_eq_ok_iff.mp hread
      have hfollows := h field (List.mem_of_find?_eq_some hfield) draft v next hnext
      rw [hname] at hfollows
      exact bind_eq_ok_iff.mpr ⟨f next, hfollows, ih hrest⟩

theorem inOrder_change {fields : List (Field σ)} (h : ∀ field ∈ fields, field.Follows change f)
    {seen : Nat} {elements : List Toml} {draft last : σ}
    (hread : r.inOrder fields seen elements draft = .ok last) :
    r.inOrder fields seen (changeInOrder change fields elements) (f draft) = .ok (f last) := by
  induction fields generalizing seen elements draft with
  | nil =>
    rw [inOrder] at hread ⊢
    rw [Except.ok.inj hread]
  | cons field fields ih =>
    obtain ⟨hfield, hfields⟩ := List.forall_mem_cons.mp h
    cases elements with
    | nil =>
      rw [changeInOrder, inOrder]
      rw [inOrder] at hread
      split at hread
      next hend =>
        have hrest := ih hfields hread
        rw [changeInOrder_nil] at hrest
        exact (if_pos hend).trans hrest
      next => cases hread
    | cons v rest =>
      rw [changeInOrder, inOrder]
      rw [inOrder] at hread
      obtain ⟨next, hnext, hrest⟩ := bind_eq_ok_iff.mp hread
      exact bind_eq_ok_iff.mpr ⟨f next, hfield draft v next hnext, ih hfields hrest⟩

/-- What is read from a document with other values is what was read from it, changed likewise. -/
theorem record_change {v : Toml} {a : α} (hfields : ∀ field ∈ r.fields, field.Follows change f)
    (hempty : f r.empty = r.empty)
    (hfinish : ∀ d a, r.finish d = .ok a → r.finish (f d) = .ok (g a))
    (hread : Decoder.record r v = .ok a) : Decoder.record r (r.change change v) = .ok (g a) := by
  cases v with
  | table entries =>
    obtain ⟨last, hlast, hread⟩ := bind_eq_ok_iff.mp hread
    have hchanged := byName_change hfields hlast
    rw [hempty] at hchanged
    exact bind_eq_ok_iff.mpr ⟨f last, hchanged, hfinish last a hread⟩
  | array elements =>
    obtain ⟨last, hlast, hread⟩ := bind_eq_ok_iff.mp hread
    have hchanged := inOrder_change hfields hlast
    rw [hempty] at hchanged
    exact bind_eq_ok_iff.mpr ⟨f last, hchanged, hfinish last a hread⟩
  | datetime =>
    have hchanged := hfinish r.empty a hread
    rw [hempty] at hchanged
    exact hchanged
  | _ => cases hread

end Change

end Decoder.Record

end AgentFleet.Toml
