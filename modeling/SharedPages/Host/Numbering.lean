import SharedPages.Gateway.Call

/-!
# Numbers for new descriptors

A new descriptor gets the lowest number that is free.

* `isOpen_lowestFree`: if one of the numbers tried is free, so is the number found.
-/

namespace SharedPages

/-- The lowest descriptor from `fd` on that is not open, among the next `bound` ones and the one
after them. -/
def lowestFree (isOpen : Fd → Bool) : (bound : Nat) → Fd → Fd
  | 0, fd => fd
  | bound + 1, fd => if isOpen fd then lowestFree isOpen bound (fd + 1) else fd

theorem isOpen_lowestFree {isOpen : Fd → Bool} {bound n : Nat} {fd : Fd} (hn : n ≤ bound)
    (hfree : isOpen (fd + Int32.ofNat n) = false) :
    isOpen (lowestFree isOpen bound fd) = false := by
  induction bound generalizing n fd with
  | zero =>
    obtain rfl : n = 0 := Nat.le_zero.mp hn
    simpa [lowestFree] using hfree
  | succ bound ih =>
    rw [lowestFree]
    split
    · next hopen =>
      cases n with
      | zero => simp [hopen] at hfree
      | succ n =>
        apply ih (Nat.le_of_succ_le_succ hn)
        rw [Int32.ofNat_add] at hfree
        rw [Int32.add_assoc, Int32.add_comm 1]
        exact hfree
    · next hclosed => simpa using hclosed

end SharedPages
