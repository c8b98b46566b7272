import Mathlib.Data.Set.Insert
import Mathlib.Logic.Function.Basic
import Mathlib.Order.BooleanAlgebra.Set
import SharedPages.Proofs.File.Ends

/-!
# Systems with names and descriptors

What is taken for granted of a system behind the creation of files, as laws on the set of
existing names and the table of open descriptors. Nothing is said about a call that panics,
but that it changes nothing. Proved here:

* `world_of_exclusiveEnd`: the search for a free name adds one name and one descriptor, or
  nothing;
* `world_of_finishStep`: a step towards handing the object out that does not return has at most
  removed the name;
* `world_of_handedOut`: an object that is handed out leaves its descriptor only;
* `world_of_rollBack`: a roll-back whose calls succeed takes away what is left.
-/

namespace SharedPages

namespace File

variable {ω ν σ : Type}

/-! ## Worlds -/

/-- The names that exist, and the open descriptors with their flags. -/
structure World (ν : Type) where
  names : Set ν
  flags : Fd → Option Int32

namespace World

/-- A name comes into being. -/
def link (s : World ν) (x : ν) : World ν := { s with names := insert x s.names }

/-- A name goes. -/
def unlink (s : World ν) (x : ν) : World ν := { s with names := s.names \ {x} }

/-- A descriptor is open with the given flags, or closed. -/
def put (s : World ν) (fd : Fd) (flags : Option Int32) : World ν :=
  { s with flags := Function.update s.flags fd flags }

variable (s : World ν) (x : ν) (fd : Fd) (f f' : Option Int32)

@[simp] theorem names_put : (s.put fd f).names = s.names := rfl

@[simp] theorem flags_unlink : (s.unlink x).flags = s.flags := rfl

@[simp] theorem flags_put_self : (s.put fd f).flags fd = f := Function.update_self ..

theorem flags_put (fd' : Fd) : (s.put fd f).flags fd' = if fd' = fd then f else s.flags fd' :=
  Function.update_apply ..

@[simp] theorem put_put : (s.put fd f).put fd f' = s.put fd f' := by
  simp [put]

@[simp] theorem unlink_put : (s.put fd f).unlink x = (s.unlink x).put fd f := rfl

/-- The descriptor is open. -/
def IsOpen : Prop := s.flags fd ≠ none

theorem isOpen_put_some (fd' : Fd) (flags : Int32) :
    (s.put fd (some flags)).IsOpen fd' ↔ fd' = fd ∨ s.IsOpen fd' := by
  by_cases h : fd' = fd <;> simp [IsOpen, flags_put, h]

theorem isOpen_put_none (fd' : Fd) : (s.put fd none).IsOpen fd' ↔ fd' ≠ fd ∧ s.IsOpen fd' := by
  by_cases h : fd' = fd <;> simp [IsOpen, flags_put, h]

variable {s x fd}

theorem unlink_link (hx : x ∉ s.names) : (s.link x).unlink x = s := by
  simp [link, unlink, Set.insert_sdiff_self_of_notMem hx]

theorem put_of_eq (hfd : s.flags fd = f) : s.put fd f = s := by
  subst hfd
  simp [put]

end World

/-! ## Laws -/

/-- The new world has one more name and one more open descriptor, with the given flags. -/
structure World.Opens (s : World ν) (x : ν) (fd : Fd) (given : Int32) (s' : World ν) : Prop where
  name_new : x ∉ s.names
  fd_new : s.flags fd = none
  after : s' = (s.link x).put fd (some given)

theorem World.Opens.unlink {s s' : World ν} {x : ν} {fd : Fd} {given : Int32}
    (hopens : s.Opens x fd given s') : s'.unlink x = s.put fd (some given) := by
  rw [hopens.after, World.unlink_put, World.unlink_link hopens.name_new]

/-- What was opened is unlinked and closed, in this order. -/
theorem World.Opens.undone {s s' : World ν} {x : ν} {fd : Fd} {given : Int32}
    (hopens : s.Opens x fd given s') : (s'.unlink x).put fd none = s := by
  rw [hopens.unlink, World.put_put, World.put_of_eq none hopens.fd_new]

/-- A system that keeps names and descriptors. `view` is what it keeps in a state, and `object`
the name under which it keeps what is asked for. A call that does not return changes nothing; an
object is opened exclusively only under a name that does not exist, and gets a descriptor that is
not open, with any flags. -/
structure ObjectSystem (h : Host ω) (view : ω → World ν) (object : String → ν) : Prop where
  aside : ∀ r w, r.isAside = true → view (h.answer r w).2 = view w
  halted : ∀ {c : Call} {w answer w'}, h.answer (.call c) w = (answer, w') →
    answer.isOk = false → view w' = view w
  opened : ∀ {name : String} {flags mode w} {fd : Fd} {w'},
    flags &&& OpenFlag.create ≠ 0 → flags &&& OpenFlag.exclusive ≠ 0 →
      h.answer (.call (.shmOpen name flags mode)) w = (.ok fd, w') →
        ∃ given, (view w).Opens (object name) fd given (view w')
  unlinked : ∀ {name : String} {w v w'}, h.answer (.call (.shmUnlink name)) w = (.ok v, w') →
    view w' = (view w).unlink (object name)
  read : ∀ {fd w} {flags : Int32} {w'}, h.answer (.call (.getFdFlags fd)) w = (.ok flags, w') →
    (view w).flags fd = some flags ∧ view w' = view w
  written : ∀ {fd flags w v w'}, h.answer (.call (.setFdFlags fd flags)) w = (.ok v, w') →
    view w' = (view w).put fd (some flags)

/-- A system in which a close that succeeds closes. -/
structure ClosingSystem (h : Host ω) (view : ω → World ν) (object : String → ν) : Prop
    extends ObjectSystem h view object where
  closed : ∀ {fd w v w'}, h.answer (.call (.close fd)) w = (.ok v, w') →
    view w' = (view w).put fd none

/-- A system in which every open descriptor can be closed, by a call or by its owner, and new
memory files get descriptors that are not open. -/
structure DescriptorSystem (h : Host ω) (view : ω → World ν) (object : String → ν) : Prop
    extends ClosingSystem h view object where
  closes : ∀ {fd w}, (view w).IsOpen fd → (h.answer (.call (.close fd)) w).1.isOk = true
  released : ∀ fd w, view (h.answer (.release fd) w).2 = (view w).put fd none
  created : ∀ {name flags w} {fd : Fd} {w'},
    h.answer (.call (.memfdCreate name flags)) w = (.ok fd, w') →
      (view w).flags fd = none ∧ ∃ given, view w' = (view w).put fd (some given)

/-- A system in which second descriptors for open files are not open before. -/
structure CloningSystem (h : Host ω) (view : ω → World ν) : Prop where
  cloned : ∀ {fd w} {fd' : Fd} {w'}, h.answer (.duplicate fd) w = (.ok fd', w') →
    (view w).flags fd' = none ∧ ∃ given, view w' = (view w).put fd' (some given)
  failed : ∀ {fd w} {e : Errno} {w'}, h.answer (.duplicate fd) w = (.error e, w') →
    view w' = view w

/-! ## What the ends of operations make of a world -/

variable {h : Host ω} {view : ω → World ν} {object : String → ν}

namespace ObjectSystem

theorem world_of_note (sys : ObjectSystem h view object) {entry : Journal.Entry} {w w' : ω}
    (hnote : (h.answer (.note entry) w).2 = w') : view w' = view w :=
  hnote ▸ sys.aside (.note entry) w rfl

theorem world_of_drawn (sys : ObjectSystem h view object) {w w' : ω} {bits : UInt64}
    {es : List Event} (hdrawn : Drawn h w bits es w') : view w' = view w := by
  cases hdrawn with
  | @bits bits w' hdraw =>
    have hview := sys.aside .draw w rfl
    rwa [hdraw] at hview
  | @clock w₁ w₂ time w' hdraw hnote hclock =>
    have hview := sys.aside .draw w rfl
    have hview' := sys.aside .clock w₂ rfl
    rw [hdraw] at hview
    rw [hclock] at hview'
    rw [hview', sys.world_of_note hnote, hview]

/-- **The search** opens an object under a name that did not exist, or changes nothing. -/
theorem world_of_exclusiveEnd (sys : ObjectSystem h view object) {name : String}
    {left count : Nat} {e : Emulator} {w : ω} {p : Played ω (Outcome Error Provisional × Emulator)}
    (hend : ExclusiveEnd h name left count e w p) :
    (∀ o, p.value.1 = .ok o → ∃ given, (view w).Opens (object o.name) o.fd given (view p.host)) ∧
      (p.value.1.isOk = false → view p.host = view w) := by
  induction hend with
  | exhausted => exact ⟨by rintro o ⟨⟩, fun _ => rfl⟩
  | opened hdrawn hopen =>
    have hopens := sys.opened (by decide) (by decide) hopen
    rw [sys.world_of_drawn hdrawn] at hopens
    exact ⟨by rintro o ⟨⟩; exact hopens, by rintro ⟨⟩⟩
  | taken hdrawn hopen hnote hrest ih =>
    rw [sys.world_of_note hnote, sys.halted hopen rfl, sys.world_of_drawn hdrawn] at ih
    exact ih
  | failed hdrawn hne hopen =>
    refine ⟨by rintro o ⟨⟩, fun _ => ?_⟩
    rw [sys.halted hopen rfl, sys.world_of_drawn hdrawn]
  | panicked hdrawn hopen =>
    refine ⟨by rintro o ⟨⟩, fun _ => ?_⟩
    rw [sys.halted hopen rfl, sys.world_of_drawn hdrawn]

theorem world_of_flagStep (sys : ObjectSystem h view object) {fd : Fd} {enabled : Bool} {w w' : ω}
    {passed : List Event} {c : Call} {answer : c.Answer}
    (hstep : FlagStep h fd enabled w passed c answer w') (hanswer : answer.isOk = false) :
    view w' = view w := by
  cases hstep with
  | read hread => exact sys.halted hread hanswer
  | write hread hwrite => rw [sys.halted hwrite hanswer, (sys.read hread).2]

/-- **Steps.** The name is gone exactly if the step was not the one that removes it. -/
theorem world_of_finishStep (sys : ObjectSystem h view object) {o : Provisional}
    {closeOnExec linked : Bool} {w w' : ω} {toError : Errno → Error} {passed : List Event}
    {c : Call} {answer : c.Answer}
    (hstep : FinishStep h o closeOnExec w linked toError passed c answer w')
    (hanswer : answer.isOk = false) :
    view w' = if linked then view w else (view w).unlink (object o.name) := by
  cases hstep with
  | unlink hunlink => exact sys.halted hunlink hanswer
  | flag hunlink hstep => exact (sys.world_of_flagStep hstep hanswer).trans (sys.unlinked hunlink)

/-- **Handing out.** The name goes, and the descriptor keeps its flags but for close-on-exec. -/
theorem world_of_handedOut (sys : ObjectSystem h view object) {o : Provisional}
    {closeOnExec : Bool} {s : World ν} {given found : Int32} {w w₁ w₂ w₃ w' : ω} {v v' : Unit}
    {entry : Journal.Entry}
    (hopens : s.Opens (object o.name) o.fd given (view w))
    (hunlink : h.answer (.call (.shmUnlink o.name)) w = (.ok v, w₁))
    (hread : h.answer (.call (.getFdFlags o.fd)) w₁ = (.ok found, w₂))
    (hwrite : h.answer (.call (.setFdFlags o.fd (withCloseOnExec found closeOnExec))) w₂ =
      (.ok v', w₃))
    (hnote : (h.answer (.note entry) w₃).2 = w') :
    found = given ∧ view w' = s.put o.fd (some (withCloseOnExec given closeOnExec)) := by
  obtain ⟨hfound, hkept⟩ := sys.read hread
  rw [sys.unlinked hunlink, hopens.unlink] at hfound hkept
  obtain rfl : given = found := by simpa using hfound
  have hworld : view w' = (view w₂).put o.fd (some (withCloseOnExec given closeOnExec)) := by
    rw [sys.world_of_note hnote, sys.written hwrite]
  rw [hworld, hkept, World.put_put]
  exact ⟨rfl, rfl⟩

theorem world_of_unlinkBack (sys : ObjectSystem h view object) {o : Provisional} {w w' : ω}
    {u : Outcome Error Unit} {es : List Event}
    (hend : UndoEnd h (.shmUnlink o.name) (.rollbackUnlinkFailed o.name) w u es w')
    (hes : ∀ event ∈ es, event.isRefusal = false) :
    view w' = (view w).unlink (object o.name) := by
  cases hend with
  | done hcall => exact sys.unlinked hcall
  | noted hcall hnote => simp [Outcome.isOk] at hes
  | panicked hcall => simp [Outcome.isOk] at hes

end ObjectSystem

namespace ClosingSystem

theorem world_of_closeBack (sys : ClosingSystem h view object) {fd : Fd}
    {entry : Errno → Journal.Entry} {w w' : ω} {u : Outcome Error Unit} {es : List Event}
    (hend : UndoEnd h (.close fd) entry w u es w')
    (hes : ∀ event ∈ es, event.isRefusal = false) : view w' = (view w).put fd none := by
  cases hend with
  | done hcall => exact sys.closed hcall
  | noted hcall hnote => simp [Outcome.isOk] at hes
  | panicked hcall => simp [Outcome.isOk] at hes

/-- **Roll-backs.** If its calls succeed, the name is gone and the descriptor is closed. -/
theorem world_of_rollBack (sys : ClosingSystem h view object) {o : Provisional} {linked : Bool}
    {w w' : ω} {u : Outcome Error Unit} {es : List Event}
    (hend : RollBackEnd h o w linked u es w') (hes : ∀ event ∈ es, event.isRefusal = false) :
    view w' = (if linked then (view w).unlink (object o.name) else view w).put o.fd none := by
  cases hend with
  | closed hclose => exact sys.world_of_closeBack hclose hes
  | unlinked hunlink hclose =>
    simp only [List.mem_append, or_imp, forall_and] at hes
    rw [sys.world_of_closeBack hclose hes.2, sys.world_of_unlinkBack hunlink hes.1, if_pos rfl]
  | stuck hunlink =>
    cases hunlink with
    | panicked hcall => simp [Outcome.isOk] at hes

/-- **Restoring.** A step that does not return, and a roll-back whose calls succeed, leave the
world as it was before the object was opened. -/
theorem world_of_halted (sys : ClosingSystem h view object) {o : Provisional}
    {closeOnExec linked : Bool} {w w₁ w' : ω} {toError : Errno → Error} {passed es : List Event}
    {c : Call} {answer : c.Answer} {u : Outcome Error Unit} {s : World ν} {given : Int32}
    (hopens : s.Opens (object o.name) o.fd given (view w))
    (hstep : FinishStep h o closeOnExec w linked toError passed c answer w₁)
    (hanswer : answer.isOk = false) (hback : RollBackEnd h o w₁ linked u es w')
    (hes : ∀ event ∈ es, event.isRefusal = false) : view w' = s := by
  rw [sys.world_of_rollBack hback hes, sys.world_of_finishStep hstep hanswer]
  cases linked <;> exact hopens.undone

end ClosingSystem

end File

end SharedPages
