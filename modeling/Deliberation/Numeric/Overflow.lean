/-! Numbers that have to fit into a word. One that does not is an overflow, and nothing goes on from
there. -/

namespace Deliberation

/-- A number has no room in its word. -/
structure Overflow where
deriving DecidableEq, Repr

theorem except_map_eq_ok_iff {ε α β : Type} {x : Except ε α} {f : α → β} {b : β} :
    x.map f = .ok b ↔ ∃ a, x = .ok a ∧ f a = b := by
  cases x <;> simp [Except.map]

def fit32 (n : Nat) : Except Overflow UInt32 :=
  if n < UInt32.size then .ok (UInt32.ofNat n) else .error {}

def fit64 (n : Nat) : Except Overflow UInt64 :=
  if n < UInt64.size then .ok (UInt64.ofNat n) else .error {}

theorem fit32_of_lt {n : Nat} (room : n < UInt32.size) : fit32 n = .ok (UInt32.ofNat n) :=
  if_pos room

theorem fit32_eq_error_iff {n : Nat} : fit32 n = .error {} ↔ UInt32.size ≤ n := by
  by_cases room : n < UInt32.size <;> simp [fit32, room, Nat.not_le.mpr, Nat.le_of_not_lt]

theorem fit32_eq_ok_iff {n : Nat} {w : UInt32} : fit32 n = .ok w ↔ w.toNat = n := by
  by_cases room : n < UInt32.size
  · rw [fit32_of_lt room, Except.ok.injEq, ← UInt32.toNat_inj, UInt32.toNat_ofNat_of_lt' room]
    exact eq_comm
  · rw [fit32, if_neg room]
    exact iff_of_false nofun fun same => room (same ▸ w.toNat_lt)

theorem fit64_of_lt {n : Nat} (room : n < UInt64.size) : fit64 n = .ok (UInt64.ofNat n) :=
  if_pos room

theorem fit64_of_le {n : Nat} (much : UInt64.size ≤ n) : fit64 n = .error {} :=
  if_neg (Nat.not_lt.mpr much)

end Deliberation
