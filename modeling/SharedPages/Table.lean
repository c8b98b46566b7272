/-!
# Tables in key order

A `Table` maps finitely many keys to values. It is a list of entries in strictly
ascending order of the keys' ranks, so each key has at most one entry, and two
tables with the same entries are equal.

* `get?_insert`, `get?_erase`, `get?_filter`: what each operation does to look-ups;
* `mem_toList_iff`: the entries of a table are its look-ups;
* `Table.ext`: tables with the same look-ups are equal.
-/

namespace SharedPages

/-- Keys are put in order by an injective rank. -/
class Ranked (κ : Type) where
  rank : κ → Nat
  rank_injective : ∀ a b, rank a = rank b → a = b

open Ranked

/-- Entries in strictly ascending order of rank. -/
def Ascending {κ ν : Type} [Ranked κ] (entries : List (κ × ν)) : Prop :=
  entries.Pairwise fun a b => rank a.1 < rank b.1

/-- A finite map in key order. -/
structure Table (κ ν : Type) [Ranked κ] where
  entries : List (κ × ν)
  ascending : Ascending entries

namespace Table

variable {κ ν : Type} [Ranked κ]

/-! ## Entry lists -/

/-- The value under a key, by the first entry of its rank. -/
def lookupIn (k : κ) : List (κ × ν) → Option ν
  | [] => none
  | e :: es => if rank e.1 = rank k then some e.2 else lookupIn k es

/-- Put an entry at its place, instead of the one with the same key if there is one. -/
def insertIn (k : κ) (v : ν) : List (κ × ν) → List (κ × ν)
  | [] => [(k, v)]
  | e :: es =>
    if rank k < rank e.1 then (k, v) :: e :: es
    else if rank k = rank e.1 then (k, v) :: es
    else e :: insertIn k v es

theorem mem_insertIn {k : κ} {v : ν} {e : κ × ν} {es : List (κ × ν)}
    (h : e ∈ insertIn k v es) : e = (k, v) ∨ e ∈ es := by
  induction es with
  | nil => exact Or.inl (by simpa [insertIn] using h)
  | cons d es ih =>
    unfold insertIn at h
    split at h
    · rcases List.mem_cons.mp h with h | h
      · exact Or.inl h
      · exact Or.inr h
    · split at h
      · rcases List.mem_cons.mp h with h | h
        · exact Or.inl h
        · exact Or.inr (List.mem_cons_of_mem _ h)
      · rcases List.mem_cons.mp h with h | h
        · exact Or.inr (h ▸ List.mem_cons_self)
        · rcases ih h with h | h
          · exact Or.inl h
          · exact Or.inr (List.mem_cons_of_mem _ h)

theorem ascending_insertIn (k : κ) (v : ν) {es : List (κ × ν)} (h : Ascending es) :
    Ascending (insertIn k v es) := by
  induction es with
  | nil => exact List.pairwise_singleton _ _
  | cons e es ih =>
    obtain ⟨hlt, hes⟩ := List.pairwise_cons.mp h
    unfold insertIn
    split
    · rename_i hk
      refine List.pairwise_cons.mpr ⟨fun d hd => ?_, h⟩
      rcases List.mem_cons.mp hd with rfl | hd
      · exact hk
      · exact Nat.lt_trans hk (hlt d hd)
    · split
      · rename_i hk
        exact List.pairwise_cons.mpr ⟨fun d hd => by simpa [hk] using hlt d hd, hes⟩
      · refine List.pairwise_cons.mpr ⟨fun d hd => ?_, ih hes⟩
        rcases mem_insertIn hd with rfl | hd
        · show rank e.1 < rank k
          omega
        · exact hlt d hd

theorem lookupIn_eq_none_of_lt {k : κ} {es : List (κ × ν)}
    (h : ∀ e ∈ es, rank k < rank e.1) : lookupIn k es = none := by
  induction es with
  | nil => rfl
  | cons e es ih =>
    have hne : rank e.1 ≠ rank k := Nat.ne_of_gt (h e List.mem_cons_self)
    simp only [lookupIn, hne, ↓reduceIte]
    exact ih fun d hd => h d (List.mem_cons_of_mem _ hd)

theorem lookupIn_insertIn [DecidableEq κ] (k j : κ) (v : ν) (es : List (κ × ν)) :
    lookupIn j (insertIn k v es) = if j = k then some v else lookupIn j es := by
  have hkj : rank k = rank j ↔ j = k :=
    ⟨fun h => (rank_injective _ _ h).symm, fun h => h ▸ rfl⟩
  induction es with
  | nil => simp only [insertIn, lookupIn, hkj]
  | cons e es ih =>
    unfold insertIn
    split
    · simp only [lookupIn, hkj]
    · split
      · rename_i he
        simp only [lookupIn, hkj, ← he]
        split <;> rfl
      · rename_i hlt hne
        simp only [lookupIn, ih]
        by_cases hj : j = k
        · subst hj
          have : rank e.1 ≠ rank j := fun h => hne h.symm
          simp [this]
        · simp [hj]

theorem lookupIn_filter (p : κ × ν → Bool) {es : List (κ × ν)} (h : Ascending es) (k : κ) :
    lookupIn k (es.filter p) = (lookupIn k es).filter fun v => p (k, v) := by
  induction es with
  | nil => rfl
  | cons e es ih =>
    obtain ⟨hlt, hes⟩ := List.pairwise_cons.mp h
    obtain ⟨j, v⟩ := e
    by_cases hk : rank j = rank k
    · obtain rfl := rank_injective _ _ hk
      have hnone : lookupIn j (es.filter p) = none :=
        lookupIn_eq_none_of_lt fun d hd => hlt d (List.mem_filter.mp hd).1
      cases hp : p (j, v) with
      | true => simp [lookupIn, hp, Option.filter]
      | false => simp [lookupIn, hp, hnone, Option.filter]
    · cases hp : p (j, v) with
      | true => simp [lookupIn, hk, hp, ih hes]
      | false => simp [lookupIn, hk, hp, ih hes]

theorem lookupIn_eq_some_iff {k : κ} {v : ν} {es : List (κ × ν)} (h : Ascending es) :
    lookupIn k es = some v ↔ (k, v) ∈ es := by
  induction es with
  | nil => simp [lookupIn]
  | cons e es ih =>
    obtain ⟨hlt, hes⟩ := List.pairwise_cons.mp h
    by_cases hk : rank e.1 = rank k
    · have he : e.1 = k := rank_injective _ _ hk
      simp only [lookupIn, hk, ↓reduceIte, Option.some.injEq, List.mem_cons]
      constructor
      · rintro rfl
        exact Or.inl (Prod.ext he.symm rfl)
      · rintro (h | h)
        · rw [← h]
        · exact absurd (hlt _ h) (by simp [hk])
    · simp only [lookupIn, hk, ↓reduceIte, List.mem_cons, ih hes]
      exact ⟨Or.inr, fun h => h.resolve_left fun h => hk (by rw [← h])⟩

/-! ## Operations -/

/-- The table without entries. -/
def empty : Table κ ν := ⟨[], List.Pairwise.nil⟩

instance : Inhabited (Table κ ν) := ⟨empty⟩

/-- The entries in key order. -/
def toList (t : Table κ ν) : List (κ × ν) := t.entries

/-- The values in key order. -/
def values (t : Table κ ν) : List ν := t.entries.map Prod.snd

def size (t : Table κ ν) : Nat := t.entries.length

def get? (t : Table κ ν) (k : κ) : Option ν := lookupIn k t.entries

/-- Put a value under a key, instead of the one that was there. -/
def insert (t : Table κ ν) (k : κ) (v : ν) : Table κ ν :=
  ⟨insertIn k v t.entries, ascending_insertIn k v t.ascending⟩

/-- Keep the entries that pass a test. -/
def filter (t : Table κ ν) (p : κ × ν → Bool) : Table κ ν :=
  ⟨t.entries.filter p, t.ascending.filter p⟩

/-- Remove the entry of a key. -/
def erase (t : Table κ ν) (k : κ) : Table κ ν := t.filter fun e => rank e.1 ≠ rank k

/-! ## Look-ups -/

@[simp] theorem get?_empty (k : κ) : (empty : Table κ ν).get? k = none := rfl

@[simp] theorem get?_insert [DecidableEq κ] (t : Table κ ν) (k j : κ) (v : ν) :
    (t.insert k v).get? j = if j = k then some v else t.get? j :=
  lookupIn_insertIn k j v t.entries

@[simp] theorem get?_filter (t : Table κ ν) (p : κ × ν → Bool) (k : κ) :
    (t.filter p).get? k = (t.get? k).filter fun v => p (k, v) :=
  lookupIn_filter p t.ascending k

@[simp] theorem get?_erase [DecidableEq κ] (t : Table κ ν) (k j : κ) :
    (t.erase k).get? j = if j = k then none else t.get? j := by
  rw [erase, get?_filter]
  by_cases h : j = k
  · subst h
    cases t.get? j <;> simp [Option.filter]
  · have hr : rank j ≠ rank k := fun hr => h (rank_injective _ _ hr)
    cases t.get? j <;> simp [Option.filter, h, hr]

theorem get?_of_erase [DecidableEq κ] {t : Table κ ν} {k j : κ} {v : ν}
    (hj : (t.erase k).get? j = some v) : t.get? j = some v := by
  rw [get?_erase] at hj
  split at hj
  · cases hj
  · exact hj

theorem mem_toList_iff (t : Table κ ν) (k : κ) (v : ν) :
    (k, v) ∈ t.toList ↔ t.get? k = some v :=
  (lookupIn_eq_some_iff t.ascending).symm

theorem size_eq_length_toList (t : Table κ ν) : t.size = t.toList.length := rfl

/-- Ascending lists with the same members are equal. -/
theorem entries_eq_of_mem_iff {es ds : List (κ × ν)} (he : Ascending es) (hd : Ascending ds)
    (h : ∀ e, e ∈ es ↔ e ∈ ds) : es = ds := by
  induction es generalizing ds with
  | nil =>
    cases ds with
    | nil => rfl
    | cons d ds => exact absurd ((h d).mpr List.mem_cons_self) (by simp)
  | cons e es ih =>
    cases ds with
    | nil => exact absurd ((h e).mp List.mem_cons_self) (by simp)
    | cons d ds =>
      obtain ⟨he₁, he₂⟩ := List.pairwise_cons.mp he
      obtain ⟨hd₁, hd₂⟩ := List.pairwise_cons.mp hd
      have hed : e = d := by
        rcases List.mem_cons.mp ((h e).mp List.mem_cons_self) with h₁ | h₁
        · exact h₁
        · rcases List.mem_cons.mp ((h d).mpr List.mem_cons_self) with h₂ | h₂
          · exact h₂.symm
          · have := hd₁ e h₁
            have := he₁ d h₂
            omega
      subst hed
      refine congrArg (e :: ·) (ih he₂ hd₂ fun x => ⟨fun hx => ?_, fun hx => ?_⟩)
      · refine (List.mem_cons.mp ((h x).mp (List.mem_cons_of_mem _ hx))).resolve_left fun hxe => ?_
        exact absurd (he₁ x hx) (by simp [hxe])
      · refine (List.mem_cons.mp ((h x).mpr (List.mem_cons_of_mem _ hx))).resolve_left fun hxe => ?_
        exact absurd (hd₁ x hx) (by simp [hxe])

theorem ext {t u : Table κ ν} (h : ∀ k, t.get? k = u.get? k) : t = u := by
  have : t.entries = u.entries := entries_eq_of_mem_iff t.ascending u.ascending fun e => by
    rw [← lookupIn_eq_some_iff (k := e.1) (v := e.2) t.ascending,
      ← lookupIn_eq_some_iff (k := e.1) (v := e.2) u.ascending]
    exact iff_of_eq (congrArg (· = some e.2) (h e.1))
  cases t; cases u; simpa using this

end Table

end SharedPages
