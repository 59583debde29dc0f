import AgentFleet.Decimal.Shortest

/-!
How a double is laid out as text: positionally, or with an exponent where the magnitude is outside
the layout's bounds. The digits are the shortest ones that read back.
-/

namespace AgentFleet.Decimal

/-- The choices of a decimal layout. `some (least, most)` writes positionally only values with
`10 ^ least ≤ value < 10 ^ most`; `none` writes every value positionally. -/
structure Layout where
  positional : Option (Int × Int)
  /-- Written before an exponent that is not negative. -/
  exponentPlus : String
  /-- Which of two shortest decimals is written that are as near. -/
  tie : Tie

/-- The layout of numbers in written JSON: an exponent from `10 ^ 16` on and below `10 ^ -5`. -/
def Layout.json : Layout := ⟨some (-5, 16), "+", .toEven⟩

def Layout.plain : Layout := ⟨none, "", .up⟩

def zeros (n : Nat) : String := String.ofList (List.replicate n '0')

def positionalText (digits : List Char) (exponent : Int) : String :=
  let point : Int := digits.length + exponent
  if 0 ≤ exponent then
    String.ofList digits ++ zeros exponent.toNat ++ ".0"
  else if 0 < point then
    String.ofList (digits.take point.toNat) ++ "." ++ String.ofList (digits.drop point.toNat)
  else
    "0." ++ zeros (-point).toNat ++ String.ofList digits

/-- One digit before the point; no point if there is only one digit. -/
def exponentText (layout : Layout) (digits : List Char) (exponent : Int) : String :=
  let lead : Int := digits.length - 1 + exponent
  let sign := if 0 ≤ lead then layout.exponentPlus else "-"
  let mantissa := match digits with
    | [] => "0"
    | [d] => String.ofList [d]
    | d :: rest => String.ofList (d :: '.' :: rest)
  mantissa ++ "e" ++ sign ++ toString lead.natAbs

def Layout.text (layout : Layout) (s : Scientific) : String :=
  let digits := Nat.toDigits 10 s.digits
  let point : Int := digits.length + s.exponent
  match layout.positional with
  | some (least, most) =>
    if s.digits = 0 ∨ (least < point ∧ point ≤ most) then positionalText digits s.exponent
    else exponentText layout digits s.exponent
  | none => positionalText digits s.exponent

def Layout.double (layout : Layout) (d : Double) : String :=
  if d.isFinite then
    (if d.isNegative then "-" else "") ++ layout.text (shortest layout.tie d)
  else if d.isNaN then "NaN"
  else if d.isNegative then "-inf" else "inf"

end AgentFleet.Decimal
