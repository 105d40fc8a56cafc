/-!
# Letters and digits of ASCII

Capitals, small letters and digits are three ranges of code points that lie apart. A capital is 32
code points away from its small letter, and other characters are their own small letters.
-/

namespace Conduit.Text

variable {c : Char}

theorem isUpper_iff : c.isUpper = true ↔ 65 ≤ c.toNat ∧ c.toNat ≤ 90 := by
  change decide (c.val ≥ 'A'.val ∧ c.val ≤ 'Z'.val) = true ↔ _
  rw [decide_eq_true_iff]
  exact Iff.rfl

theorem isLower_iff : c.isLower = true ↔ 97 ≤ c.toNat ∧ c.toNat ≤ 122 := by
  change (decide (c.val ≥ 'a'.val) && decide (c.val ≤ 'z'.val)) = true ↔ _
  rw [Bool.and_eq_true_iff, decide_eq_true_iff, decide_eq_true_iff]
  exact Iff.rfl

theorem isDigit_iff : c.isDigit = true ↔ 48 ≤ c.toNat ∧ c.toNat ≤ 57 :=
  Char.isDigit_iff_toNat

theorem isAlphanum_iff :
    c.isAlphanum = true ↔ c.isUpper = true ∨ c.isLower = true ∨ c.isDigit = true := by
  change ((c.isUpper || c.isLower) || c.isDigit) = true ↔ _
  rw [Bool.or_eq_true_iff, Bool.or_eq_true_iff, or_assoc]

theorem toLower_of_not_isUpper (other : c.isUpper = false) : c.toLower = c :=
  dif_neg fun range => Bool.eq_false_iff.1 other (isUpper_iff.2 range)

theorem toNat_toLower (upper : c.isUpper = true) : c.toLower.toNat = c.toNat + 32 := by
  have range := isUpper_iff.1 upper
  have shifted : c.toLower.val = c.val + 32 := congrArg Char.val (dif_pos range)
  have fits : c.toNat + 32 < 2 ^ 32 := by omega
  change c.toLower.val.toNat = c.toNat + 32
  rw [shifted, UInt32.toNat_add]
  exact Nat.mod_eq_of_lt fits

end Conduit.Text
