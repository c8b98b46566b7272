import Mathlib.Data.List.Nodup
import Mathlib.Data.List.Perm.Subperm
import SharedPages.Host.Scripted
import SharedPages.Proofs.File.World

/-!
# An orderly system

The scripted system with a limit on open descriptors, in which a close is never made to fail and
a second descriptor is a descriptor like any other. Everything else may be scripted. Proved here:

* `isOpen_newFd`: below the limit, the number for a new descriptor is free;
* `isOpen_of_orderly`: what is open stays open, unless it is to be closed;
* `descriptorSystem_orderly`, `cloningSystem_orderly`: it keeps the laws of names and descriptors.
-/

namespace SharedPages

namespace Scripted

/-- The most descriptors that may be open. -/
def descriptorLimit : Nat := 1024

/-- New descriptors are refused at the limit. -/
def belowLimit {α : Type} (s : Scripted) (open? : Scripted → Outcome Errno α × Scripted) :
    Outcome Errno α × Scripted :=
  if s.fds.size < descriptorLimit then open? s else (.fail .emfile, s)

def orderly : Gateway Scripted
  | .shmOpen name flags mode, s => s.belowLimit (perform (.shmOpen name flags mode))
  | .memfdCreate name flags, s => s.belowLimit (perform (.memfdCreate name flags))
  | .close fd, s => behave .proceed (.close fd) s
  | c, s => perform c s

/-- A second descriptor, with no flags. -/
def cloneFd (s : Scripted) : Except Errno Fd × Scripted :=
  match s.belowLimit fun s => s.openFd none 0 with
  | (.ok fd, s) => (.ok fd, s)
  | _ => (.error .emfile, s)

def orderlyHost : Host Scripted where
  answer
    | .call c, s => orderly c s
    | .duplicate _, s => s.cloneFd
    | r, s => host.answer r s

end Scripted

namespace Scripted

/-! ## New descriptors -/

section New

variable {s : Scripted}

theorem mem_keys_of_isOpen {fd : Fd} (h : s.isOpen fd = true) :
    fd ∈ s.fds.entries.map Prod.fst := by
  obtain ⟨flags, hflags⟩ := Option.isSome_iff_exists.mp h
  exact List.mem_map.mpr ⟨(fd, flags), (s.fds.mem_toList_iff fd flags).mpr hflags, rfl⟩

/-- Of one number more than there are open descriptors, one is free. -/
theorem exists_free (hsize : s.fds.size < descriptorLimit) :
    ∃ n ≤ s.fds.size, s.isOpen (100 + Int32.ofNat n) = false := by
  by_contra hall
  simp only [not_exists, not_and, Bool.not_eq_false] at hall
  let numbers := (List.range (s.fds.size + 1)).map fun n => 100 + Int32.ofNat n
  have hsub : numbers ⊆ s.fds.entries.map Prod.fst := by
    intro fd hfd
    obtain ⟨n, hn, rfl⟩ := List.mem_map.mp hfd
    exact mem_keys_of_isOpen (hall n (Nat.lt_succ_iff.mp (List.mem_range.mp hn)))
  have hnodup : numbers.Nodup := by
    -- No number is past the limit, so none of the sums wraps around.
    refine List.Nodup.map_on ?_ List.nodup_range
    intro n hn m hm heq
    have hbound : descriptorLimit < 2 ^ 31 := by decide
    have heq' := congrArg Int32.toInt ((Int32.add_right_inj 100).mp heq)
    rw [Int32.toInt_ofNat_of_lt (by grind), Int32.toInt_ofNat_of_lt (by grind)] at heq'
    exact Int.ofNat.inj heq'
  have hlength := (List.subperm_of_subset hnodup hsub).length_le
  simp only [numbers, List.length_map, List.length_range] at hlength
  exact absurd hlength (Nat.not_succ_le_self _)

/-- **New descriptors.** Below the limit, the number found is free. -/
theorem isOpen_newFd (hsize : s.fds.size < descriptorLimit) {forced : Option Fd} {fd : Fd}
    (h : s.newFd? forced = some fd) : s.fds.get? fd = none := by
  cases forced with
  | none =>
    obtain rfl := Option.some.inj h
    obtain ⟨n, hn, hfree⟩ := exists_free hsize
    simpa [isOpen] using isOpen_lowestFree hn hfree
  | some number =>
    simp only [newFd?] at h
    split at h
    · cases h
    · next hrefused =>
      cases h
      simp_all [isOpen]

/-! ## Single calls -/

theorem openFd_ends {forced : Option Fd} {flags : Int32} {answer : Outcome Errno Fd}
    {s' : Scripted} (h : s.openFd forced flags = (answer, s')) :
    (answer.isOk = false ∧ s' = s) ∨
      ∃ fd, answer = .ok fd ∧ s.newFd? forced = some fd ∧
        s' = { s with fds := s.fds.insert fd flags } := by
  simp only [openFd] at h
  cases hnew : s.newFd? forced with
  | none =>
    rw [hnew] at h
    cases h
    exact Or.inl ⟨rfl, rfl⟩
  | some fd =>
    rw [hnew] at h
    cases h
    exact Or.inr ⟨fd, rfl, rfl, rfl⟩

theorem createObject_ends {forced : Option Fd} {name : String} {answer : Outcome Errno Fd}
    {s' : Scripted} (h : s.createObject forced name = (answer, s')) :
    (answer.isOk = false ∧ s' = s) ∨
      ∃ n fd, ObjectName.normalize name = .ok n ∧ n ∉ s.names ∧ answer = .ok fd ∧
        s.newFd? forced = some fd ∧
        s' = { s with fds := s.fds.insert fd s.openFlags, names := n :: s.names } := by
  simp only [createObject] at h
  cases hname : ObjectName.normalize name with
  | error e =>
    rw [hname] at h
    cases h
    exact Or.inl ⟨rfl, rfl⟩
  | ok n =>
    rw [hname] at h
    dsimp only at h
    by_cases htaken : s.names.contains n = true
    · rw [if_pos htaken] at h
      cases h
      exact Or.inl ⟨rfl, rfl⟩
    · rw [if_neg htaken] at h
      rcases hopen : s.openFd forced s.openFlags with ⟨o, s₁⟩
      rw [hopen] at h
      rcases openFd_ends hopen with ⟨ho, rfl⟩ | ⟨fd, rfl, hnew, rfl⟩
      · cases o with
        | ok fd => cases ho
        | fail e => cases h; exact Or.inl ⟨rfl, rfl⟩
        | panic text => cases h; exact Or.inl ⟨rfl, rfl⟩
      · cases h
        exact Or.inr ⟨n, fd, rfl, by simpa using htaken, rfl, hnew, rfl⟩

theorem unlinkObject_ends {name : String} {answer : Outcome Errno Unit} {s' : Scripted}
    (h : s.unlinkObject name = (answer, s')) :
    (answer.isOk = false ∧ s' = s) ∨
      ∃ n, ObjectName.normalize name = .ok n ∧ answer = .ok () ∧
        s' = { s with names := s.names.filter (· ≠ n) } := by
  simp only [unlinkObject] at h
  cases hname : ObjectName.normalize name with
  | error e =>
    rw [hname] at h
    cases h
    exact Or.inl ⟨rfl, rfl⟩
  | ok n =>
    rw [hname] at h
    dsimp only at h
    split at h
    · cases h
      exact Or.inr ⟨n, rfl, rfl, rfl⟩
    · cases h
      exact Or.inl ⟨rfl, rfl⟩

theorem createMemory_ends {forced : Option Fd} {name : String} {flags : UInt32}
    {answer : Outcome Errno Fd} {s' : Scripted}
    (h : s.createMemory forced name flags = (answer, s')) :
    (answer.isOk = false ∧ s' = s) ∨
      ∃ fd, answer = .ok fd ∧ s.newFd? forced = some fd ∧
        s' = { s with fds := s.fds.insert fd (flags &&& Memfd.closeOnExec).toInt32 } := by
  simp only [createMemory] at h
  split at h
  · cases h
    exact Or.inl ⟨rfl, rfl⟩
  · exact openFd_ends h

theorem withFd_ends {α : Type} {fd : Fd} {f : Int32 → α × Scripted} {answer : Outcome Errno α}
    {s' : Scripted} (h : s.withFd fd f = (answer, s')) :
    (answer.isOk = false ∧ s' = s) ∨
      ∃ flags, s.fds.get? fd = some flags ∧ answer = .ok (f flags).1 ∧ s' = (f flags).2 := by
  simp only [withFd] at h
  cases hfd : s.fds.get? fd with
  | none =>
    rw [hfd] at h
    cases h
    exact Or.inl ⟨rfl, rfl⟩
  | some flags =>
    rw [hfd] at h
    cases h
    exact Or.inr ⟨flags, rfl, rfl, rfl⟩

theorem eq_of_withFd_refused {α : Type} {fd : Fd} {f : Int32 → α × Scripted}
    {answer : Outcome Errno α} {s' : Scripted} (h : s.withFd fd f = (answer, s'))
    (hanswer : answer.isOk = false) : s' = s := by
  rcases withFd_ends h with ⟨-, rfl⟩ | ⟨flags, -, rfl, -⟩
  · rfl
  · cases hanswer

/-- A call that behaves and does not return changes nothing. -/
theorem eq_of_behave_refused {d : Directive} {c : Call} {answer : c.Answer} {s' : Scripted}
    (h : behave d c s = (answer, s')) (hanswer : answer.isOk = false) : s' = s := by
  cases c with
  | mmap hint len prot flags fd offset =>
    have hplace : (answer, s') = s.place hint len flags ∨ answer.isOk = true := by
      cases d with
      | address a => cases h; exact Or.inr rfl
      | _ => exact Or.inl h.symm
    rcases hplace with hplace | hok
    · simp only [place] at hplace
      split at hplace
      · cases hplace; cases hanswer
      · split at hplace
        · cases hplace; rfl
        · cases hplace; cases hanswer
    · rw [hanswer] at hok
      cases hok
  | shmOpen name flags mode =>
    rcases createObject_ends h with ⟨-, rfl⟩ | ⟨n, fd, -, -, rfl, -⟩
    · rfl
    · cases hanswer
  | shmUnlink name =>
    rcases unlinkObject_ends h with ⟨-, rfl⟩ | ⟨n, -, rfl, -⟩
    · rfl
    · cases hanswer
  | memfdCreate name flags =>
    rcases createMemory_ends h with ⟨-, rfl⟩ | ⟨fd, rfl, -⟩
    · rfl
    · cases hanswer
  | getFdFlags | setFdFlags | ftruncate | close =>
    simp only [behave] at h
    exact eq_of_withFd_refused h hanswer
  | _ => cases h; cases hanswer

/-- A call either is made not to return, or behaves; its directive is used up. -/
theorem perform_ends {c : Call} {answer : c.Answer} {s' : Scripted}
    (h : perform c s = (answer, s')) :
    (answer.isOk = false ∧ s' = (s.takeDirective c.kind).2) ∨
      ∃ d, behave d c (s.takeDirective c.kind).2 = (answer, s') := by
  simp only [perform] at h
  rcases hd : s.takeDirective c.kind with ⟨d, s₁⟩
  rw [hd] at h
  cases d with
  | fail e => cases h; exact Or.inl ⟨rfl, rfl⟩
  | panic text => cases h; exact Or.inl ⟨rfl, rfl⟩
  | proceed => exact Or.inr ⟨_, h⟩
  | address a => exact Or.inr ⟨_, h⟩
  | descriptor fd => exact Or.inr ⟨_, h⟩

end New

end Scripted

namespace File

open Scripted

/-- The names and descriptors of the scripted system. A name that names no object is as good as
any other name that does not exist. -/
def world (s : Scripted) : World (Except Errno String) :=
  ⟨{x | ∃ name ∈ s.names, x = .ok name}, s.fds.get?⟩

section World

variable {s : Scripted}

theorem world_takeDirective (s : Scripted) (k : CallKind) :
    world (s.takeDirective k).2 = world s := by
  unfold takeDirective
  split <;> rfl

theorem size_takeDirective (s : Scripted) (k : CallKind) :
    (s.takeDirective k).2.fds.size = s.fds.size := by
  unfold takeDirective
  split <;> rfl

theorem world_insert (s : Scripted) (fd : Fd) (flags : Int32) :
    world { s with fds := s.fds.insert fd flags } = (world s).put fd (some flags) := by
  have hflags : (s.fds.insert fd flags).get? = Function.update s.fds.get? fd (some flags) := by
    funext fd'
    rw [Table.get?_insert, Function.update_apply]
  simp only [world, World.put, hflags]

theorem world_release (s : Scripted) (fd : Fd) :
    world (s.release fd) = (world s).put fd none := by
  have hflags : (s.fds.erase fd).get? = Function.update s.fds.get? fd none := by
    funext fd'
    rw [Table.get?_erase, Function.update_apply]
  simp only [world, World.put, release, hflags]

theorem world_link (s : Scripted) (name : String) :
    world { s with names := name :: s.names } = (world s).link (.ok name) := by
  have hnames : {x | ∃ n ∈ name :: s.names, x = (.ok n : Except Errno String)} =
      insert (.ok name) {x | ∃ n ∈ s.names, x = .ok n} := by
    ext x
    simp
  simp only [world, World.link, hnames]

theorem world_unlink (s : Scripted) (name : String) :
    world { s with names := s.names.filter (· ≠ name) } = (world s).unlink (.ok name) := by
  have hnames : {x | ∃ n ∈ s.names.filter (· ≠ name), x = (.ok n : Except Errno String)} =
      {x | ∃ n ∈ s.names, x = .ok n} \ {.ok name} := by
    ext x
    simp only [List.mem_filter, decide_eq_true_iff, Set.mem_ofPred_eq, Set.mem_sdiff,
      Set.mem_singleton_iff]
    constructor
    · rintro ⟨n, ⟨hn, hne⟩, rfl⟩
      exact ⟨⟨n, hn, rfl⟩, fun heq => hne (Except.ok.inj heq)⟩
    · rintro ⟨⟨n, hn, rfl⟩, hne⟩
      exact ⟨n, ⟨hn, fun heq => hne (congrArg _ heq)⟩, rfl⟩
  simp only [world, World.unlink, hnames]

theorem world_of_perform_refused {c : Call} {answer : c.Answer} {s' : Scripted}
    (h : perform c s = (answer, s')) (hanswer : answer.isOk = false) : world s' = world s := by
  rcases perform_ends h with ⟨-, rfl⟩ | ⟨d, hbehave⟩
  · exact world_takeDirective s c.kind
  · rw [eq_of_behave_refused hbehave hanswer, world_takeDirective]

/-- A call that returned behaved, in a state with the same names and descriptors. -/
theorem behave_of_perform_ok {c : Call} {answer : c.Answer} {s' : Scripted}
    (h : perform c s = (answer, s')) (hanswer : answer.isOk = true) :
    ∃ d s₁, world s₁ = world s ∧ s₁.fds.size = s.fds.size ∧ behave d c s₁ = (answer, s') := by
  rcases perform_ends h with ⟨hnot, -⟩ | ⟨d, hbehave⟩
  · rw [hanswer] at hnot
    cases hnot
  · exact ⟨d, _, world_takeDirective s c.kind, size_takeDirective s c.kind, hbehave⟩

theorem belowLimit_ok {α : Type} {open? : Scripted → Outcome Errno α × Scripted} {a : α}
    {s' : Scripted} (h : s.belowLimit open? = (.ok a, s')) :
    s.fds.size < descriptorLimit ∧ open? s = (.ok a, s') := by
  simp only [belowLimit] at h
  split at h
  · next hsize => exact ⟨hsize, h⟩
  · cases h

/-- What is open stays open, unless it is closed. -/
theorem isOpen_of_behave {d : Directive} {c : Call} {answer : c.Answer} {s' : Scripted} {fd : Fd}
    (h : behave d c s = (answer, s')) (hopen : (world s).IsOpen fd) (hc : c ≠ .close fd) :
    (world s').IsOpen fd := by
  have inserted {fd' : Fd} {flags : Int32} :
      (world { s with fds := s.fds.insert fd' flags }).IsOpen fd := by
    rw [world_insert, World.isOpen_put_some]
    exact Or.inr hopen
  cases c with
  | mmap hint len prot flags fd offset =>
    cases d with
    | address a => cases h; exact hopen
    | _ =>
      simp only [behave, place] at h
      split at h
      · cases h; exact hopen
      · split at h <;> · cases h; exact hopen
  | shmOpen name flags mode =>
    rcases createObject_ends h with ⟨-, rfl⟩ | ⟨n, fd', -, -, -, -, rfl⟩
    · exact hopen
    · exact inserted
  | shmUnlink name =>
    rcases unlinkObject_ends h with ⟨-, rfl⟩ | ⟨n, -, -, rfl⟩
    · exact hopen
    · exact hopen
  | memfdCreate name flags =>
    rcases createMemory_ends h with ⟨-, rfl⟩ | ⟨fd', -, -, rfl⟩
    · exact hopen
    · exact inserted
  | setFdFlags fd' flags =>
    simp only [behave] at h
    rcases withFd_ends h with ⟨-, rfl⟩ | ⟨found, -, -, rfl⟩
    · exact hopen
    · exact inserted
  | close fd' =>
    simp only [behave] at h
    rcases withFd_ends h with ⟨-, rfl⟩ | ⟨found, -, -, rfl⟩
    · exact hopen
    · have hne : fd ≠ fd' := fun heq => hc (congrArg Call.close heq.symm)
      rw [world_release, World.isOpen_put_none]
      exact ⟨hne, hopen⟩
  | getFdFlags | ftruncate =>
    simp only [behave] at h
    rcases withFd_ends h with ⟨-, rfl⟩ | ⟨found, -, -, rfl⟩
    · exact hopen
    · exact hopen
  | _ => cases h; exact hopen

theorem isOpen_of_perform {c : Call} {answer : c.Answer} {s' : Scripted} {fd : Fd}
    (h : perform c s = (answer, s')) (hopen : (world s).IsOpen fd) (hc : c ≠ .close fd) :
    (world s').IsOpen fd := by
  have htaken : (world (s.takeDirective c.kind).2).IsOpen fd := by
    rwa [world_takeDirective]
  rcases perform_ends h with ⟨-, rfl⟩ | ⟨d, hbehave⟩
  · exact htaken
  · exact isOpen_of_behave hbehave htaken hc

end World

/-! ## The laws -/

theorem belowLimit_ends {α : Type} {open? : Scripted → Outcome Errno α × Scripted}
    {answer : Outcome Errno α} {s s' : Scripted} (h : s.belowLimit open? = (answer, s')) :
    s' = s ∨ open? s = (answer, s') := by
  simp only [belowLimit] at h
  split at h
  · exact Or.inr h
  · cases h
    exact Or.inl rfl

theorem world_of_orderly_refused {c : Call} {answer : c.Answer} {s s' : Scripted}
    (h : orderly c s = (answer, s')) (hanswer : answer.isOk = false) : world s' = world s := by
  cases c with
  | shmOpen | memfdCreate =>
    rcases belowLimit_ends h with rfl | hperform
    · rfl
    · exact world_of_perform_refused hperform hanswer
  | close fd =>
    have hbehave : behave .proceed (.close fd) s = (answer, s') := h
    rw [eq_of_behave_refused hbehave hanswer]
  | _ => exact world_of_perform_refused h hanswer

/-- **Open descriptors.** What is open stays open, unless it is to be closed. -/
theorem isOpen_of_orderly {c : Call} {answer : c.Answer} {s s' : Scripted} {fd : Fd}
    (h : orderly c s = (answer, s')) (hopen : (world s).IsOpen fd) (hc : c ≠ .close fd) :
    (world s').IsOpen fd := by
  cases c with
  | shmOpen | memfdCreate =>
    rcases belowLimit_ends h with rfl | hperform
    · exact hopen
    · exact isOpen_of_perform hperform hopen hc
  | close fd' =>
    have hbehave : behave .proceed (.close fd') s = (answer, s') := h
    exact isOpen_of_behave hbehave hopen hc
  | _ => exact isOpen_of_perform h hopen hc

theorem objectSystem_orderly : ObjectSystem orderlyHost world ObjectName.normalize where
  aside r s hr := by
    cases r with
    | draw =>
      simp only [orderlyHost, host]
      split <;> rfl
    | clock => rfl
    | note entry => rfl
    | _ => cases hr
  halted h hanswer := world_of_orderly_refused h hanswer
  opened := by
    intro name flags mode s fd s' _ _ h
    obtain ⟨hsize, hperform⟩ := belowLimit_ok h
    obtain ⟨d, s₁, hworld, hsize₁, hbehave⟩ := behave_of_perform_ok hperform rfl
    rcases createObject_ends hbehave with ⟨hnot, -⟩ | ⟨n, fd', hname, hnew, hok, hfd, rfl⟩
    · cases hnot
    · cases hok
      refine ⟨s₁.openFlags, ?_, ?_, ?_⟩
      · rw [hname, ← hworld]
        rintro ⟨n', hn', heq⟩
        cases heq
        exact hnew hn'
      · rw [← hworld]
        exact isOpen_newFd (hsize₁ ▸ hsize) hfd
      · rw [hname, ← hworld, ← world_link, ← world_insert]
  unlinked := by
    intro name s v s' h
    obtain ⟨d, s₁, hworld, -, hbehave⟩ := behave_of_perform_ok h rfl
    rcases unlinkObject_ends hbehave with ⟨hnot, -⟩ | ⟨n, hname, -, rfl⟩
    · cases hnot
    · rw [hname, ← hworld]
      exact world_unlink s₁ n
  read := by
    intro fd s flags s' h
    obtain ⟨d, s₁, hworld, -, hbehave⟩ := behave_of_perform_ok h rfl
    simp only [behave] at hbehave
    rcases withFd_ends hbehave with ⟨hnot, -⟩ | ⟨found, hfd, hok, rfl⟩
    · cases hnot
    · cases hok
      rw [← hworld]
      exact ⟨hfd, rfl⟩
  written := by
    intro fd flags s v s' h
    obtain ⟨d, s₁, hworld, -, hbehave⟩ := behave_of_perform_ok h rfl
    simp only [behave] at hbehave
    rcases withFd_ends hbehave with ⟨hnot, -⟩ | ⟨found, hfd, -, rfl⟩
    · cases hnot
    · rw [← hworld]
      exact world_insert s₁ fd flags

theorem closingSystem_orderly : ClosingSystem orderlyHost world ObjectName.normalize where
  toObjectSystem := objectSystem_orderly
  closed := by
    intro fd s v s' h
    have hbehave : s.withFd fd (fun _ => ((), s.release fd)) = (.ok v, s') := h
    rcases withFd_ends hbehave with ⟨hnot, -⟩ | ⟨found, -, -, rfl⟩
    · cases hnot
    · exact world_release s fd

/-- **The orderly system** keeps the laws of names and descriptors. -/
theorem descriptorSystem_orderly : DescriptorSystem orderlyHost world ObjectName.normalize where
  toClosingSystem := closingSystem_orderly
  closes := by
    intro fd s hopen
    obtain ⟨flags, hflags⟩ := Option.ne_none_iff_exists'.mp hopen
    have hfd : s.fds.get? fd = some flags := hflags
    simp [orderlyHost, orderly, behave, withFd, hfd, Outcome.isOk]
  released fd s := world_release s fd
  created := by
    intro name flags s fd s' h
    obtain ⟨hsize, hperform⟩ := belowLimit_ok h
    obtain ⟨d, s₁, hworld, hsize₁, hbehave⟩ := behave_of_perform_ok hperform rfl
    rcases createMemory_ends hbehave with ⟨hnot, -⟩ | ⟨fd', hok, hnew, rfl⟩
    · cases hnot
    · cases hok
      rw [← hworld]
      exact ⟨isOpen_newFd (hsize₁ ▸ hsize) hnew, _, world_insert s₁ fd _⟩

theorem cloningSystem_orderly : CloningSystem orderlyHost world where
  cloned := by
    intro fd s fd' s' h
    simp only [orderlyHost, cloneFd] at h
    split at h
    · next hclone =>
      cases h
      obtain ⟨hsize, hopen⟩ := belowLimit_ok hclone
      rcases openFd_ends hopen with ⟨hnot, -⟩ | ⟨fd₂, hok, hnew, rfl⟩
      · cases hnot
      · cases hok
        exact ⟨isOpen_newFd hsize hnew, 0, world_insert s _ 0⟩
    · cases h
  failed := by
    intro fd s e s' h
    simp only [orderlyHost, cloneFd] at h
    split at h
    · cases h
    · cases h
      rfl

end File

end SharedPages
