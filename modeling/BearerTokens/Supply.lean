/-
BearerTokens.Supply — values that are handed out one after another.

Random numbers and new links come from outside. A supply first hands out the
values it was given and after them fresh ones, each a function of how many
have been handed out before.
-/
namespace BearerTokens

/-- Values to hand out. -/
structure Supply (α : Type) where
  scripted : List α
  used : Nat
  fresh : Nat → α

namespace Supply

variable {α : Type}

/-- The next value, and the supply without it. -/
def next (s : Supply α) : α × Supply α :=
  match s.scripted with
  | a :: rest => (a, { s with scripted := rest, used := s.used + 1 })
  | [] => (s.fresh s.used, { s with used := s.used + 1 })

@[simp] theorem used_next (s : Supply α) : s.next.2.used = s.used + 1 := by
  unfold next
  split <;> rfl

@[simp] theorem fresh_next (s : Supply α) : s.next.2.fresh = s.fresh := by
  unfold next
  split <;> rfl

/-! ## The values to come -/

/-- The value at a place, counted from the next one. -/
def get (s : Supply α) (i : Nat) : α :=
  s.scripted.getD i (s.fresh (s.used + i))

/-- The next value is the first one to come. -/
theorem get_zero (s : Supply α) : s.get 0 = s.next.1 := by
  unfold get next
  split <;> simp_all

/-- Handing out a value moves the others one place forward. -/
theorem get_next (s : Supply α) (i : Nat) : s.next.2.get i = s.get (i + 1) := by
  unfold get next
  split
  · rename_i a rest h
    simp [h, Nat.add_assoc, Nat.add_comm 1 i]
  · rename_i h
    simp [h, Nat.add_assoc, Nat.add_comm 1 i]

end Supply
end BearerTokens
