import SharedPages.Table

/-!
# Sizes of tables

* `size_insert`: a table grows by one exactly if the key was new;
* `size_filter`: what is kept and what is dropped make up the table;
* `nodup_toList`: no entry is there twice.
-/

namespace SharedPages.Table

open Ranked

variable {κ ν : Type} [Ranked κ]

theorem length_insertIn (k : κ) (v : ν) {es : List (κ × ν)} (h : Ascending es)
    (hk : lookupIn k es = none) : (insertIn k v es).length = es.length + 1 := by
  induction es with
  | nil => rfl
  | cons e es ih =>
    obtain ⟨-, hes⟩ := List.pairwise_cons.mp h
    have hne : rank e.1 ≠ rank k := by
      intro he
      simp [lookupIn, he] at hk
    simp only [lookupIn, hne, ↓reduceIte] at hk
    unfold insertIn
    split
    · rfl
    · rw [if_neg (fun h => hne h.symm), List.length_cons, List.length_cons, ih hes hk]

theorem size_insert {t : Table κ ν} {k : κ} (v : ν) (hk : t.get? k = none) :
    (t.insert k v).size = t.size + 1 :=
  length_insertIn k v t.ascending hk

theorem size_filter (t : Table κ ν) (p : κ × ν → Bool) :
    (t.filter p).size + (t.entries.filter fun e => !p e).length = t.size := by
  show (t.entries.filter p).length + _ = t.entries.length
  rw [← List.countP_eq_length_filter, ← List.countP_eq_length_filter,
    List.length_eq_countP_add_countP p]
  simp

theorem nodup_toList (t : Table κ ν) : t.toList.Nodup := by
  refine List.Pairwise.imp ?_ t.ascending
  rintro a b hlt rfl
  exact Nat.lt_irrefl _ hlt

end SharedPages.Table
