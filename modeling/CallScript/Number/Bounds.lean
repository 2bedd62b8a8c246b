/-! # Bounds of integers

The integers that fit into 64 bits, with a sign or without. -/

namespace CallScript.Bounds

/-- The number of integers that 63 binary digits write: the least natural number beyond the signed
range. -/
abbrev signed : Nat := 0x8000000000000000

/-- The number of integers that 64 binary digits write. -/
abbrev unsigned : Nat := 0x10000000000000000

theorem signed_eq : signed = Nat.pow 2 63 := rfl

theorem unsigned_eq : unsigned = 2 * signed := rfl

/-- The signed integer that an integer is, if it fits. -/
def signed? (i : Int) : Option Int64 :=
  if -(signed : Int) ≤ i ∧ i < (signed : Int) then some (Int64.ofInt i) else none

theorem isSome_signed? {i : Int} : (signed? i).isSome ↔ -(signed : Int) ≤ i ∧ i < (signed : Int) := by
  unfold signed?
  split <;> simp_all

/-- An integer that fits is kept. -/
theorem signed?_eq_some_iff {n : Int} {i : Int64} : signed? n = some i ↔ i.toInt = n := by
  unfold signed?
  constructor
  · intro found
    obtain ⟨⟨low, high⟩, same⟩ := Option.ite_none_right_eq_some.mp found
    cases same
    exact Int64.toInt_ofInt_of_le low high
  · rintro rfl
    rw [if_pos ⟨i.le_toInt, i.toInt_lt⟩, Int64.ofInt_toInt]

end CallScript.Bounds
