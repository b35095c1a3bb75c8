import Criteria.Number.Integer

/-!
Written whole numbers are read back.
-/

namespace Criteria.Number

theorem natural_ne_nil (value : Nat) : natural value ≠ [] :=
  Nat.toDigits_ne_nil

theorem isDigit_of_mem_natural {value : Nat} {character : Char}
    (member : character ∈ natural value) : character.isDigit :=
  Nat.isDigit_of_mem_toDigits (by decide) (by decide) member

theorem readNatural_natural (value : Nat) : readNatural (natural value) = some value := by
  have digits : (natural value).all Char.isDigit = true :=
    List.all_eq_true.mpr fun _ member => isDigit_of_mem_natural member
  have back : Nat.ofDigitChars 10 (natural value) 0 = value :=
    Nat.ofDigitChars_toDigits (by decide) (by decide)
  simp [readNatural, natural_ne_nil, digits, back]

theorem mem_integer {value : Int} {character : Char} (member : character ∈ integer value) :
    character = '-' ∨ character.isDigit := by
  unfold integer at member
  split at member
  · rcases List.mem_cons.mp member with minus | digit
    · exact .inl minus
    · exact .inr (isDigit_of_mem_natural digit)
  · exact .inr (isDigit_of_mem_natural member)

theorem integer_ne_nil (value : Int) : integer value ≠ [] := by
  unfold integer
  split
  · exact List.cons_ne_nil _ _
  · exact natural_ne_nil _

theorem readInteger_natural (value : Nat) :
    readInteger (natural value) = some (value : Int) := by
  have back := readNatural_natural value
  have digits : ∀ character ∈ natural value, character.isDigit = true :=
    fun _ member => isDigit_of_mem_natural member
  unfold readInteger
  split
  case h_1 rest equal =>
      have signed := digits '-' (by rw [equal]; exact List.mem_cons_self)
      cases signed
  case h_2 rest equal =>
      have signed := digits '+' (by rw [equal]; exact List.mem_cons_self)
      cases signed
  case h_3 =>
      rw [back]
      rfl

theorem readInteger_integer (value : Int) : readInteger (integer value) = some value := by
  unfold integer
  split
  case isTrue negative =>
      have size : -(value.natAbs : Int) = value := by omega
      rw [readInteger, readNatural_natural]
      exact congrArg some size
  case isFalse positive =>
      have size : (value.natAbs : Int) = value := by omega
      rw [readInteger_natural, size]

private theorem toInt64?_toInt (value : Int64) : toInt64? value.toInt = some value := by
  have low := value.le_toInt
  have high := value.toInt_lt
  have fits : -(int64Bound : Int) ≤ value.toInt ∧ value.toInt < int64Bound := by
    unfold int64Bound
    omega
  rw [toInt64?, if_pos fits, Int64.ofInt_toInt]

theorem readInt64_integer (value : Int64) : readInt64 (integer value.toInt) = some value := by
  rw [readInt64, readInteger_integer, Option.bind_some, toInt64?_toInt]

end Criteria.Number
