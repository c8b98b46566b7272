import SharedPages.Proofs.Context.Run
import SharedPages.Proofs.Mapping.Kernel

/-!
# Mapped files and the sizes of their objects

Mapping a file sizes its object to exactly the length that is asked for, whatever is mapped of it
already. Proved here, for every system in which nothing else sizes objects:

* `Kept.play`: after each move, an object has the size of its last sizing, and every registration
  begins at the beginning of an object and was made by a step that sized the object to its length;
* `within_iff_of_run`: a mapping of a whole object lies within it exactly if the last sizing of the
  object was for at least the length of the mapping;
* `not_always_within`: a mapping does not always lie within its object, since mapping the same file
  again at a smaller length cuts it.
-/

namespace SharedPages.Context

variable {ω ι κ ν : Type}

/-! ## Sizes -/

/-- A system that knows the object behind a descriptor and the size of each object. Sizing a
descriptor sizes the object behind it and no other; what fails sizes nothing, and neither do
mappings of whole files and unmappings, whatever comes of them. -/
structure Sizing (g : Gateway ω) (behind : ω → Fd → Option ι) (size : ω → ι → Nat) : Prop where
  sized : ∀ {fd n w w'}, g (.ftruncate fd n) w = (.ok (), w') → ∃ o, behind w fd = some o ∧
    size w' o = n.toInt.toNat ∧ ∀ o' ≠ o, size w' o' = size w o'
  unsized : ∀ {fd n w answer w'}, g (.ftruncate fd n) w = (answer, w') → answer.isOk = false →
    ∀ o, size w' o = size w o
  mapped : ∀ {fd len prot w} o, size (g (wholeFile fd len prot).toCall w).2 o = size w o
  unmapped : ∀ {r w} o, size (g (.munmap r) w).2 o = size w o

/-- The event is a sizing that succeeded. -/
def sizes : Event → Bool
  | ⟨.call (.ftruncate _ _), .ok _⟩ => true
  | _ => false

section Sizing

variable {g : Gateway ω} {behind : ω → Fd → Option ι} {size : ω → ι → Nat} {w w' : ω} {fd : Fd}
  {len : UInt64} {prot : Int32}

theorem Sizing.size_mapped (sys : Sizing g behind size) {answer : Outcome Errno Address}
    (hmap : g (wholeFile fd len prot).toCall w = (answer, w')) (o : ι) : size w' o = size w o := by
  have hkept : size (g (wholeFile fd len prot).toCall w).2 o = size w o := sys.mapped o
  rwa [hmap] at hkept

theorem Sizing.size_unmapped (sys : Sizing g behind size) {r : Range} {answer : Outcome Errno Unit}
    (hunmap : g (.munmap r) w = (answer, w')) (o : ι) : size w' o = size w o := by
  have hkept : size (g (.munmap r) w).2 o = size w o := sys.unmapped o
  rwa [hunmap] at hkept

/-- Whatever comes of mapping a whole file, it sizes nothing. -/
theorem Sizing.size_mapEnd (sys : Sizing g behind size) {live : Mapping.LiveSet}
    {p : Played ω (Outcome Mapping.Error Range × Mapping.LiveSet)}
    (hend : Mapping.MapEnd g (wholeFile fd len prot) live w p) (o : ι) :
    size p.host o = size w o := by
  cases hend with
  | empty => rfl
  | split => rfl
  | failed _ hmap => exact sys.size_mapped hmap o
  | panicked _ hmap => exact sys.size_mapped hmap o
  | null _ hmap hunmap => exact (sys.size_unmapped hunmap o).trans (sys.size_mapped hmap o)
  | nullKept _ hmap hunmap => exact (sys.size_unmapped hunmap o).trans (sys.size_mapped hmap o)
  | nullPanicked _ hmap hunmap =>
    exact (sys.size_unmapped hunmap o).trans (sys.size_mapped hmap o)
  | mapped _ _ hmap => exact sys.size_mapped hmap o

end Sizing

/-! ## Moves -/

/-- A file is mapped whole, a range is unmapped, or others do something in the meantime. -/
inductive Move (ω : Type)
  | mapFile (fd : Fd) (len : UInt64) (prot : Int32)
  | unmap (r : Range)
  | meanwhile (change : ω → ω)

/-- Others size no objects. -/
def Move.Fair (size : ω → ι → Nat) : Move ω → Prop
  | meanwhile change => ∀ w o, size (change w) o = size w o
  | _ => True

def Move.play (g : Gateway ω) (src : Sources ω) (c : Context) (w : ω) :
    Move ω → Played ω (Outcome ContextError Reply × Context)
  | mapFile fd len prot => ((Action.mapFile fd len prot).operation c).run (g.hostIn src) w
  | unmap r => ((Action.registry (.unmap r)).operation c).run (g.hostIn src) w
  | meanwhile change => ⟨(.ok (.registry .nothing), c), [], change w⟩

/-- One move of a run: the state of the system before it, how it ended, and its events. -/
structure Step (ω : Type) where
  move : Move ω
  before : ω
  outcome : Outcome ContextError Reply
  events : List Event

/-- What a run leaves. -/
structure Story (ω : Type) where
  steps : List (Step ω)
  context : Context
  host : ω

/-- One move after the other, whether they fail or not. -/
def story (g : Gateway ω) (src : Sources ω) : List (Move ω) → Context → ω → Story ω
  | [], c, w => ⟨[], c, w⟩
  | m :: moves, c, w =>
    let p := m.play g src c w
    let rest := story g src moves p.value.2 p.host
    { rest with steps := ⟨m, w, p.value.1, p.events⟩ :: rest.steps }

section Ledger

variable (behind : ω → Fd → Option ι)

/-- The object that a step sized, and to what length. -/
def Step.sizing? (s : Step ω) : Option (ι × Nat) :=
  match s.move with
  | .mapFile fd len _ =>
    if s.events.any sizes then (behind s.before fd).map fun o => (o, len.toNat) else none
  | _ => none

/-- The range that a step mapped, and the object that it shows. -/
def Step.showing? (s : Step ω) : Option (Range × ι) :=
  match s.move, s.outcome with
  | .mapFile fd _ _, .ok (.mapped r) => (behind s.before fd).map fun o => (r, o)
  | _, _ => none

def sizings (steps : List (Step ω)) : List (ι × Nat) := steps.filterMap (Step.sizing? behind)

def showings (steps : List (Step ω)) : List (Range × ι) := steps.filterMap (Step.showing? behind)

end Ledger

/-- What was last entered under a key. -/
def latest [BEq κ] (entries : List (κ × ν)) (k : κ) : Option ν := entries.reverse.lookup k

theorem latest_append [BEq κ] (entries entries' : List (κ × ν)) (k : κ) :
    latest (entries ++ entries') k = (latest entries' k).or (latest entries k) := by
  rw [latest, List.reverse_append, List.lookup_append]
  rfl

theorem latest_concat [BEq κ] {f : Step ω → Option (κ × ν)} (steps : List (Step ω)) (s : Step ω)
    (k : κ) : latest ((steps ++ [s]).filterMap f) k =
      (latest (f s).toList k).or (latest (steps.filterMap f) k) := by
  rw [List.filterMap_append, latest_append]
  cases hs : f s <;> simp [hs]

@[simp] theorem latest_singleton [DecidableEq κ] (k' k : κ) (v : ν) :
    latest [(k', v)] k = if k = k' then some v else none := by
  rw [latest, List.reverse_singleton, List.lookup_cons]
  by_cases hk : k = k'
  · simp [hk]
  · simp [hk, beq_eq_false_iff_ne.mpr hk]

/-- A step that returns nothing maps nothing. -/
theorem showing?_of_failed {behind : ω → Fd → Option ι} {s : Step ω}
    (hfail : s.outcome.isOk = false) :
    s.showing? behind = none := by
  unfold Step.showing?
  split
  · next hok => rw [hok] at hfail; cases hfail
  · rfl

/-- A step whose sizing succeeded, whatever comes after it. -/
theorem sizing?_of_sized {behind : ω → Fd → Option ι} {w : ω} {fd : Fd} {o : ι}
    (hbehind : behind w fd = some o) (len : UInt64) (prot : Int32) (n : Int64)
    (outcome : Outcome ContextError Reply) (es : List Event) :
    Step.sizing? behind ⟨.mapFile fd len prot, w, outcome,
      Call.event (.ftruncate fd n) (.ok ()) :: es⟩ = some (o, len.toNat) := by
  simp [Step.sizing?, sizes, Call.event, hbehind]

/-! ## Steps that make registrations -/

/-- The step makes the registration: it asks for its length, sizes the object to just that, and is
given its range. -/
structure Step.Makes (behind : ω → Fd → Option ι) (s : Step ω) (known : Mapping.Registration)
    (o : ι) : Prop where
  asked : ∃ fd, known.fd = some fd ∧ s.move = .mapFile fd known.range.len known.prot
  sized : s.sizing? behind = some (o, known.range.len.toNat)
  given : s.outcome = .ok (.mapped known.range)
  shared : known.flags = MapFlag.shared

/-- The registration was made in one of the steps, and its range not mapped again since. -/
def MadeLast (behind : ω → Fd → Option ι) (steps : List (Step ω)) (known : Mapping.Registration)
    (o : ι) : Prop :=
  ∃ before s after, steps = before ++ s :: after ∧ s.Makes behind known o ∧
    latest (showings behind after) known.range = none

section MadeLast

variable {behind : ω → Fd → Option ι} {steps : List (Step ω)} {s : Step ω}
  {known : Mapping.Registration} {o : ι}

/-- What a step makes shows the object that it sized. -/
theorem Step.Makes.showing (h : s.Makes behind known o) :
    s.showing? behind = some (known.range, o) := by
  obtain ⟨fd, -, hmove⟩ := h.asked
  have hsized := h.sized
  simp only [Step.sizing?, hmove] at hsized
  split at hsized
  · obtain ⟨o', hbehind, heq⟩ := Option.map_eq_some_iff.mp hsized
    cases heq
    simp [Step.showing?, hmove, h.given, hbehind]
  · cases hsized

theorem Step.Makes.madeLast (h : s.Makes behind known o) :
    MadeLast behind (steps ++ [s]) known o :=
  ⟨steps, s, [], rfl, h, rfl⟩

theorem MadeLast.concat (h : MadeLast behind steps known o)
    (hnone : latest (s.showing? behind).toList known.range = none) :
    MadeLast behind (steps ++ [s]) known o := by
  obtain ⟨before, made, after, rfl, hmade, hlater⟩ := h
  refine ⟨before, made, after ++ [s], by simp, hmade, ?_⟩
  rw [showings, latest_concat, hnone]
  exact hlater

theorem MadeLast.latest_showings (h : MadeLast behind steps known o) :
    latest (showings behind steps) known.range = some o := by
  obtain ⟨before, made, after, rfl, hmade, hlater⟩ := h
  rw [showings] at hlater ⊢
  rw [List.append_cons, List.filterMap_append, latest_append, hlater, latest_concat, hmade.showing]
  simp

/-- An object of which something was mapped has been sized. -/
theorem MadeLast.exists_sizing [DecidableEq ι] (h : MadeLast behind steps known o) :
    ∃ n, latest (sizings behind steps) o = some n := by
  obtain ⟨before, made, after, rfl, hmade, -⟩ := h
  rw [sizings, List.append_cons, List.filterMap_append, latest_append, latest_concat, hmade.sized]
  cases hagain : latest (after.filterMap (Step.sizing? behind)) o with
  | some n => exact ⟨n, rfl⟩
  | none => exact ⟨known.range.len.toNat, by simp⟩

end MadeLast

/-! ## What a run keeps -/

section Kept

variable [DecidableEq ι] {g : Gateway ω} {src : Sources ω} {behind : ω → Fd → Option ι}
  {size : ω → ι → Nat} {c : Context} {w w' : ω}

/-- After some steps, objects have the sizes of their last sizings, and every live registration
begins at the beginning of an object that was sized to its length when it was made. -/
structure Kept (behind : ω → Fd → Option ι) (size : ω → ι → Nat) (steps : List (Step ω))
    (live : Mapping.LiveSet) (w : ω) : Prop where
  sized : ∀ o n, latest (sizings behind steps) o = some n → size w o = n
  made : ∀ r known, live.get? r = some known →
    known.range = r ∧ known.offset = 0 ∧ ∃ o, MadeLast behind steps known o

theorem kept_start (provider : File.Provider) (w : ω) :
    Kept behind size [] (Context.start provider).live w where
  sized o n hlast := by cases hlast
  made r known hknown := by cases hknown

/-- What a step must do to keep it: it sizes what it tells, and a registration after it was there
before, with a range that the step has not mapped, or is one that the step made. -/
theorem Kept.concat {steps : List (Step ω)} {live live' : Mapping.LiveSet} {s : Step ω}
    (h : Kept behind size steps live w)
    (hsize : ∀ o, size w' o = (latest (s.sizing? behind).toList o).getD (size w o))
    (hlive : ∀ r known, live'.get? r = some known →
      (live.get? r = some known ∧ latest (s.showing? behind).toList r = none) ∨
      (known.range = r ∧ known.offset = 0 ∧ ∃ o, s.Makes behind known o)) :
    Kept behind size (steps ++ [s]) live' w' := by
  constructor
  · intro o n hlast
    rw [sizings, latest_concat] at hlast
    rw [hsize]
    cases hnow : latest (s.sizing? behind).toList o with
    | some m =>
      rw [hnow] at hlast
      cases hlast
      rfl
    | none =>
      rw [hnow] at hlast
      exact h.sized o n hlast
  · intro r known hknown
    rcases hlive r known hknown with ⟨hbefore, hnone⟩ | ⟨hrange, hoffset, o, hmakes⟩
    · obtain ⟨hrange, hoffset, o, hmade⟩ := h.made r known hbefore
      exact ⟨hrange, hoffset, o, hmade.concat (by rwa [hrange])⟩
    · exact ⟨hrange, hoffset, o, hmakes.madeLast⟩

/-- A step that sizes nothing and maps nothing. -/
theorem Kept.quiet {steps : List (Step ω)} {live live' : Mapping.LiveSet} {s : Step ω}
    (h : Kept behind size steps live w) (hsizing : s.sizing? behind = none)
    (hshowing : s.showing? behind = none) (hsize : ∀ o, size w' o = size w o)
    (hlive : ∀ r known, live'.get? r = some known → live.get? r = some known) :
    Kept behind size (steps ++ [s]) live' w' := by
  refine h.concat (fun o => by rw [hsizing]; exact hsize o) fun r known hknown => Or.inl ?_
  rw [hshowing]
  exact ⟨hlive r known hknown, rfl⟩

/-- What is sized is the object behind the descriptor, and no other. -/
theorem size_of_sized (sys : Sizing g behind size) {fd : Fd} {len : UInt64} {prot : Int32}
    {n : Int64} {w₁ : ω} {p : Played ω (Outcome Mapping.Error Range × Mapping.LiveSet)}
    (hsize : fileSize? len = some n) (hresize : g (.ftruncate fd n) w = (.ok (), w₁))
    (hmap : Mapping.MapEnd g (wholeFile fd len prot) c.live w₁ p) :
    ∃ o, behind w fd = some o ∧
      ∀ o', size p.host o' = (latest [(o, len.toNat)] o').getD (size w o') := by
  obtain ⟨o, hbehind, hnow, hothers⟩ := sys.sized hresize
  refine ⟨o, hbehind, fun o' => ?_⟩
  rw [sys.size_mapEnd hmap, latest_singleton]
  split
  · next heq => rw [heq, hnow, toInt_of_fileSize? hsize, Int.toNat_natCast]; rfl
  · next hne => exact hothers o' hne

/-- Mapping a file. -/
theorem Kept.mapFile (sys : Sizing g behind size) {steps : List (Step ω)} {fd : Fd} {len : UInt64}
    {prot : Int32} {p : Played ω (Outcome ContextError Range × Context)}
    (h : Kept behind size steps c.live w) (hend : MapFileEnd g fd len prot c w p) :
    Kept behind size (steps ++ [⟨.mapFile fd len prot, w, p.value.1.map .mapped, p.events⟩])
      p.value.2.live p.host := by
  cases hend with
  | empty => exact h.quiet rfl rfl (fun _ => rfl) fun _ _ => id
  | oversized => exact h.quiet rfl rfl (fun _ => rfl) fun _ _ => id
  | unsized hlen hsize hresize hfail =>
    refine h.quiet ?_ ?_ (sys.unsized hresize hfail.isOk_part) fun _ _ => id
    · cases hfail <;> rfl
    · exact showing?_of_failed (by rw [Outcome.isOk_map]; exact hfail.isOk)
  | @unmapped n v w₁ p failure hlen hsize hresize hmap hfail =>
    obtain ⟨o, hbehind, hsizes⟩ := size_of_sized sys hsize hresize hmap
    have hsizing := sizing?_of_sized hbehind len prot n (failure.map .mapped) p.events
    refine h.concat (fun o' => by rw [hsizing]; exact hsizes o') fun r known hknown => Or.inl ?_
    rw [showing?_of_failed (by rw [Outcome.isOk_map]; exact hfail.isOk)]
    rw [hmap.live_of_failed hfail.isOk_part] at hknown
    exact ⟨hknown, rfl⟩
  | @mapped n v w₁ p r hlen hsize hresize hmap hr =>
    obtain rfl : r.len = len := hmap.len_of_ok hr
    obtain ⟨o, hbehind, hsizes⟩ := size_of_sized sys hsize hresize hmap
    have hmakes : Step.Makes behind ⟨.mapFile fd r.len prot, w, Outcome.map .mapped (.ok r),
        Call.event (.ftruncate fd n) (.ok v) :: p.events ++
          [Journal.Entry.event (.mappedFile fd r)]⟩ ((wholeFile fd r.len prot).register r) o :=
      ⟨⟨fd, rfl, rfl⟩, sizing?_of_sized hbehind r.len prot n _ _, rfl, rfl⟩
    refine h.concat (fun o' => by rw [hmakes.sized]; exact hsizes o') fun r' known hknown => ?_
    rw [hmap.live_of_ok hr, entered_wholeFile, Table.get?_insert] at hknown
    by_cases hr' : r' = r
    · rw [if_pos hr'] at hknown
      cases hknown
      exact Or.inr ⟨hr'.symm, rfl, o, hmakes⟩
    · rw [if_neg hr'] at hknown
      refine Or.inl ⟨hknown, ?_⟩
      rw [hmakes.showing]
      exact (latest_singleton _ _ _).trans (if_neg hr')

/-- Unmapping a range. -/
theorem Kept.unmap (sys : Sizing g behind size) {steps : List (Step ω)} {r : Range}
    {outcome : Outcome ContextError Reply}
    {p : Played ω (Outcome Mapping.Error Unit × Mapping.LiveSet)}
    (h : Kept behind size steps c.live w) (hend : Mapping.UnmapEnd g r c.live w p) :
    Kept behind size (steps ++ [⟨.unmap r, w, outcome, p.events⟩]) p.value.2 p.host := by
  cases hend with
  | refused hr => exact h.quiet rfl rfl (fun _ => rfl) fun _ _ => id
  | unmapped hr hunmap =>
    exact h.quiet rfl rfl (sys.size_unmapped hunmap) fun _ _ => Table.get?_of_erase
  | failed hr hunmap => exact h.quiet rfl rfl (sys.size_unmapped hunmap) fun _ _ => id
  | panicked hr hunmap =>
    exact h.quiet rfl rfl (sys.size_unmapped hunmap) fun _ _ => Table.get?_of_erase

/-- **One move.** -/
theorem Kept.play (src : Sources ω) (sys : Sizing g behind size) {steps : List (Step ω)}
    {m : Move ω} (hfair : m.Fair size) (h : Kept behind size steps c.live w) :
    let p := m.play g src c w
    Kept behind size (steps ++ [⟨m, w, p.value.1, p.events⟩]) p.value.2.live p.host := by
  cases m with
  | mapFile fd len prot =>
    have hend := action_ends g src (.mapFile fd len prot) c w
    rw [Move.play]
    generalize ((Action.mapFile fd len prot).operation c).run (g.hostIn src) w = p at hend
    cases hend with
    | mapFile hend => exact h.mapFile sys hend
    | create ha _ => cases ha
  | unmap r =>
    have hend := action_ends g src (.registry (.unmap r)) c w
    rw [Move.play]
    generalize ((Action.registry (.unmap r)).operation c).run (g.hostIn src) w = p at hend
    cases hend with
    | create ha _ => cases ha
    | registry hend =>
      cases hend with
      | unmap hend => exact h.unmap sys hend
      | pass ha _ => cases ha
      | look ha => cases ha
  | meanwhile change => exact h.quiet rfl rfl (hfair w) fun _ _ => id

/-- **A whole run.** -/
theorem kept_story (sys : Sizing g behind size) (moves : List (Move ω))
    (hfair : ∀ m ∈ moves, m.Fair size) {steps : List (Step ω)}
    (h : Kept behind size steps c.live w) :
    Kept behind size (steps ++ (story g src moves c w).steps) (story g src moves c w).context.live
      (story g src moves c w).host := by
  induction moves generalizing steps c w with
  | nil => simpa [story] using h
  | cons m moves ih =>
    have hfirst := h.play src sys (hfair m List.mem_cons_self)
    have hrest := ih (fun m' hm' => hfair m' (List.mem_cons_of_mem _ hm')) hfirst
    rwa [List.append_assoc] at hrest

/-- The mapping lies within the object. -/
def Within (size : ω → ι → Nat) (w : ω) (known : Mapping.Registration) (o : ι) : Prop :=
  known.offset.toInt + known.range.len.toNat ≤ size w o

instance (known : Mapping.Registration) (o : ι) : Decidable (Within size w known o) :=
  inferInstanceAs (Decidable (_ ≤ _))

/-- **Mappings within their objects.** After any run in which files are mapped whole and ranges
unmapped, whatever fails on the way and whatever others do in the meantime but size objects, each
live registration begins at the beginning of an object, and was made by a step that sized the object
to the length of the registration; the object is as large as it was last made by mapping it; and the
mapping lies within it exactly if that was for at least its length. -/
theorem within_iff_of_run (sys : Sizing g behind size) (moves : List (Move ω))
    (hfair : ∀ m ∈ moves, m.Fair size) (provider : File.Provider) (w : ω) :
    let past := story g src moves (.start provider) w
    ∀ r known, past.context.live.info r = some known → known.range = r ∧ known.offset = 0 ∧
      ∃ o n, MadeLast behind past.steps known o ∧
        latest (showings behind past.steps) r = some o ∧
        latest (sizings behind past.steps) o = some n ∧ size past.host o = n ∧
          (Within size past.host known o ↔ r.len.toNat ≤ n) := by
  intro past r known hknown
  have hkept : Kept behind size past.steps past.context.live past.host :=
    kept_story sys moves hfair (kept_start provider w)
  obtain ⟨hrange, hoffset, o, hmade⟩ := hkept.made r known (Mapping.get?_of_info hknown)
  obtain ⟨n, hlast⟩ := hmade.exists_sizing
  have hsize : size past.host o = n := hkept.sized o n hlast
  refine ⟨hrange, hoffset, o, n, hmade, hrange ▸ hmade.latest_showings, hlast, hsize, ?_⟩
  rw [Within, hrange, hoffset, hsize]
  simp

end Kept

/-! ## The paged system -/

section Paged

open Mapping (wholePages kernel_wholePages)

/-- The object behind a descriptor. -/
def behindFd (k : Paged) (fd : Fd) : Option ObjectId := (k.objectOf? fd).map Prod.fst

/-- The size of an object; one that does not exist has none. -/
def extent (k : Paged) (o : ObjectId) : Nat := ((k.objects.get? o).map MemoryObject.size).getD 0

theorem extent_congr {k k' : Paged} (h : k'.objects = k.objects) (o : ObjectId) :
    extent k' o = extent k o := by
  rw [extent, extent, h]

theorem sized_truncate {k k' : Paged} {fd : Fd} {n : Int64} (h : k.truncate fd n = (.ok (), k')) :
    ∃ o, behindFd k fd = some o ∧ extent k' o = n.toInt.toNat ∧
      ∀ o' ≠ o, extent k' o' = extent k o' := by
  unfold Paged.truncate at h
  split at h
  · cases h
  · split at h
    · cases h
    · next o object hobject =>
      cases h
      refine ⟨o, by simp [behindFd, hobject], by simp [extent, MemoryObject.resize], ?_⟩
      intro o' hne
      simp [extent, hne]

theorem eq_of_truncate_refused {k k' : Paged} {fd : Fd} {n : Int64} {answer : Outcome Errno Unit}
    (h : k.truncate fd n = (answer, k')) (hrefused : answer.isOk = false) : k' = k := by
  unfold Paged.truncate at h
  split at h
  · exact (Prod.mk.inj h).2.symm
  · split at h
    · exact (Prod.mk.inj h).2.symm
    · cases h
      cases hrefused

theorem objects_of_mmap (k : Paged) (hint : Address) (len : UInt64) (prot : Int32) {flags : Int32}
    (fd : Fd) (offset : Int64) (hflags : flags &&& MapFlag.anonymous = 0) :
    (wholePages (.mmap hint len prot flags fd offset) k).2.objects = k.objects := by
  simp only [wholePages]
  split
  · exact Paged.objects_mapMemory k hint len fd offset hflags
  · rfl

/-- **The paged system** sizes objects by their descriptors alone. -/
theorem sizing_wholePages : Sizing wholePages behindFd extent where
  sized h := sized_truncate h
  unsized h hrefused o := by rw [eq_of_truncate_refused h hrefused]
  mapped {fd len prot k} o := by
    have hshared : MapFlag.shared &&& MapFlag.anonymous = 0 := by decide
    exact extent_congr (objects_of_mmap k 0 len prot fd 0 hshared) o
  unmapped {r k} o := by
    refine extent_congr ?_ o
    simp only [wholePages]
    by_cases hpages : Paged.isAligned r.len.toNat = true
    · rw [if_pos hpages]
      exact Paged.objects_unmapMemory k r
    · rw [if_neg hpages]

/-- A system with two open files. -/
def twoFiles : Paged :=
  { Paged.start with
    objects := (Table.empty.insert 0 ⟨0, []⟩).insert 1 ⟨0, []⟩
    nextObject := 2
    fds := (Table.empty.insert 3 ⟨0, 0⟩).insert 4 ⟨1, 0⟩ }

/-- Surroundings without random bits and without owners of descriptors. -/
def bareSources : Sources Paged where
  draw k := (none, k)
  clock k := (0, k)
  release _ k := k
  duplicate _ k := (.error .einval, k)

/-- The same file is mapped at a length and then at half of it. -/
def shrinking : List (Move Paged) :=
  [.mapFile 3 0x2000 Prot.readWrite, .mapFile 3 0x1000 Prot.readWrite]

/-- **Mappings are cut.** Even where mappings are made in free places and nothing else sizes
objects, a live mapping of a file need not lie within the file. -/
theorem not_always_within :
    ¬ ∀ (ω ι : Type) [DecidableEq ι] (g : Gateway ω) (src : Sources ω) (mapped : ω → Nat → Prop)
      (behind : ω → Fd → Option ι) (size : ω → ι → Nat), Mapping.Kernel g mapped →
      Sizing g behind size → ∀ (moves : List (Move ω)), (∀ m ∈ moves, m.Fair size) →
      ∀ (provider : File.Provider) (w : ω),
      let past := story g src moves (.start provider) w
      ∀ r known o, past.context.live.info r = some known →
        latest (showings behind past.steps) r = some o → Within size past.host known o := by
  intro h
  have hfair : ∀ m ∈ shrinking, m.Fair extent := by
    simp [shrinking, Move.Fair]
  have hwithin := h Paged ObjectId wholePages bareSources Paged.Maps behindFd extent
    kernel_wholePages sizing_wholePages shrinking hfair .native twoFiles
    ⟨0x7ffeffffe000, 0x2000⟩ ⟨⟨0x7ffeffffe000, 0x2000⟩, Prot.readWrite, MapFlag.shared, some 3, 0⟩ 0
    (by decide +kernel) (by decide +kernel)
  exact absurd hwithin (by decide +kernel)

/-- Two files are mapped, others close a descriptor, and one of the files is mapped again, first
not at whole pages and then at a greater length. -/
def growing : List (Move Paged) :=
  [.mapFile 3 0x1000 Prot.readWrite, .mapFile 4 0x3000 Prot.readWrite,
   .meanwhile fun k => k.release 4, .mapFile 4 0x1000 Prot.readWrite,
   .unmap ⟨0x7ffefffff000, 0x2000⟩, .mapFile 3 0x800 Prot.readWrite,
   .mapFile 3 0x2000 Prot.readWrite]

theorem within_growing :
    let past := story wholePages bareSources growing (.start .native) twoFiles
    let first : Range := ⟨0x7ffefffff000, 0x1000⟩
    past.context.live.active.map (·.range.len) = [0x2000, 0x3000, 0x1000] ∧
    ∃ known, past.context.live.info first = some known ∧ known.offset = 0 ∧
      MadeLast behindFd past.steps known 0 ∧ Within extent past.host known 0 := by
  intro past first
  have hlens : past.context.live.active.map (·.range.len) = [0x2000, 0x3000, 0x1000] := by
    decide +kernel
  have hknown : past.context.live.info first =
      some ⟨first, Prot.readWrite, MapFlag.shared, some 3, 0⟩ := by decide +kernel
  have hfair : ∀ m ∈ growing, m.Fair extent := by
    simp [growing, Move.Fair, Paged.release, extent]
  obtain ⟨-, hoffset, o, n, hmade, hshow, hlast, -, hiff⟩ :=
    within_iff_of_run sizing_wholePages growing hfair .native twoFiles first _ hknown
  have hobject : latest (showings behindFd past.steps) first = some 0 := by decide +kernel
  cases hshow.symm.trans hobject
  have hlength : latest (sizings behindFd past.steps) 0 = some 0x2000 := by decide +kernel
  cases hlast.symm.trans hlength
  exact ⟨hlens, _, hknown, hoffset, hmade, hiff.mpr (by decide)⟩

end Paged

end SharedPages.Context
