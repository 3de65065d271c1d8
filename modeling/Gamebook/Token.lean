import Gamebook.Number.Decimal
import Gamebook.Text.Case

/-!
Tokens: what tells the reference ids of one kind apart. An id shows its token in capitals, so a
supply of tokens never gives two that are the same in capitals.
-/

namespace Gamebook

/-- An endless supply of tokens that never repeats itself. -/
structure TokenSupply where
  token : Nat → String
  distinct : ∀ {m n}, Text.upper (token m) = Text.upper (token n) → m = n

namespace TokenSupply

/-- The token with a number: eight hexadecimal digits at least. -/
def countedToken (n : Nat) : String :=
  String.ofList (Double.padZeros 8 (Nat.toDigits 16 n))

/-- The value of a capital hexadecimal digit. -/
def digitValue (c : Char) : Nat := c.toNat - if c.toNat < 65 then 48 else 55

/-- The number that hexadecimal digits spell once they are in capitals. -/
def valueOf (cs : List Char) : Nat :=
  ((cs.flatMap Text.capitalForm).map digitValue).foldl (fun value d => 16 * value + d) 0

theorem digitValue_capitalForm :
    ∀ d < 16, (Text.capitalForm (Nat.digitChar d)).map digitValue = [d] := by
  decide

theorem valueOf_concat (cs : List Char) {d : Nat} (h : d < 16) :
    valueOf (cs ++ [Nat.digitChar d]) = 16 * valueOf cs + d := by
  simp [valueOf, List.flatMap_append, digitValue_capitalForm d h]

theorem valueOf_zeros (k : Nat) (cs : List Char) :
    valueOf (List.replicate k '0' ++ cs) = valueOf cs := by
  induction k with
  | zero => rfl
  | succ k ih => exact ih

theorem valueOf_toDigits (n : Nat) : valueOf (Nat.toDigits 16 n) = n := by
  induction n using Nat.strongRecOn with
  | ind n ih =>
    by_cases small : n < 16
    · rw [Nat.toDigits_of_lt_base small]
      have last := valueOf_concat [] small
      rw [List.nil_append] at last
      rw [last]
      exact Nat.zero_add n
    · have quotient : 0 < n / 16 := Nat.div_pos (Nat.le_of_not_lt small) (by decide)
      have rest : n % 16 < 16 := Nat.mod_lt n (by decide)
      have split := Nat.toDigits_append_toDigits (by decide : 1 < 16) quotient rest
      rw [Nat.toDigits_of_lt_base rest, Nat.div_add_mod] at split
      rw [← split, valueOf_concat _ rest, ih (n / 16) (Nat.div_lt_self (by omega) (by decide)),
        Nat.div_add_mod]

theorem countedToken_distinct {m n : Nat}
    (h : Text.upper (countedToken m) = Text.upper (countedToken n)) : m = n := by
  have spelled : valueOf (Double.padZeros 8 (Nat.toDigits 16 m)) =
      valueOf (Double.padZeros 8 (Nat.toDigits 16 n)) := by
    simp only [Text.upper, countedToken, String.toList_ofList] at h
    simp only [valueOf, String.ofList_injective h]
  simpa only [Double.padZeros, valueOf_zeros, valueOf_toDigits] using spelled

/-- The tokens that count upwards. -/
def counted : TokenSupply := ⟨countedToken, countedToken_distinct⟩

instance : Inhabited TokenSupply := ⟨counted⟩

end TokenSupply

end Gamebook
