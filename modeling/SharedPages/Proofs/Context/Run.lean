import Mathlib.Algebra.Group.Nat.Defs
import SharedPages.Context
import SharedPages.Proofs.File.Ends
import SharedPages.Proofs.Mapping.Run
import SharedPages.Proofs.Rules
import SharedPages.Proofs.Surroundings

/-!
# Runs of a context

Everything that can be done with a context, in any surroundings of its gateway. Proved here:

* `mapFile_ends`: `MapFileEnd` lists all ends of mapping a whole file;
* `asks_action`, `asks_mapFile`: the registry, and the mapping of files, ask for calls only;
* `action_ends`: `ActionEnd` lists all ends of an action of a context.
-/

namespace SharedPages

open Operation

variable {ω : Type}

/-! ## What the registry asks for -/

namespace Mapping

theorem asks_find (r : Range) : (find r).Asks Request.IsPlain := by
  intro live
  unfold find
  split
  · trivial
  · split <;> trivial

theorem asks_refuseSplit (q : MapRequest) : (refuseSplit q).Asks Request.IsPlain := by
  refine asks_bind asks_get fun live => ?_
  split
  · exact asks_bind (asks_note trivial) fun _ => asks_fail _
  · exact asks_pure ()

theorem asks_enter (q : MapRequest) (r : Range) : (enter q r).Asks Request.IsPlain := by
  have hdrop : (dropCovered r).Asks Request.IsPlain :=
    asks_bind asks_get fun _ => asks_bind (asks_noteAll fun _ _ => trivial) fun _ => asks_modify _
  have hrest : Asks Request.IsPlain (do
      modify fun live : LiveSet => live.insert r (q.register r)
      note (.registered r) : Operation LiveSet Error Unit) :=
    asks_bind (asks_modify _) fun _ => asks_note trivial
  unfold enter
  split
  · exact asks_bind hdrop fun _ => hrest
  · exact hrest

theorem asks_map (q : MapRequest) : (map q).Asks Request.IsPlain := by
  refine asks_bind (asks_require _ _) fun _ => asks_bind (asks_refuseSplit q) fun _ => ?_
  refine asks_bind (asks_call trivial _) fun base => ?_
  split
  · exact asks_bind (asks_perform trivial) fun _ => asks_fail _
  · exact asks_bind (asks_enter q _) fun _ => asks_pure _

theorem asks_unmap (r : Range) : (unmap r).Asks Request.IsPlain := by
  refine asks_bind (asks_find r) fun known => asks_bind (asks_modify _) fun _ => ?_
  refine asks_bind (asks_perform trivial) fun answer => ?_
  cases answer with
  | ok v => exact asks_note trivial
  | error e =>
    exact asks_bind (asks_note trivial) fun _ => asks_bind (asks_modify _) fun _ => asks_fail _

theorem asks_pass (r : Range) (c : Call) (toError : Errno → Error) :
    (pass r c toError).Asks Request.IsPlain :=
  asks_bind (asks_find r) fun _ => asks_call trivial _

theorem asks_replying {α : Type} (f : α → Reply) {x : Operation LiveSet Error α}
    (hx : x.Asks Request.IsPlain) : (replying f x).Asks Request.IsPlain :=
  asks_bind hx fun _ => asks_pure _

/-- **The registry** asks for calls only. -/
theorem asks_action (a : Action) : a.operation.Asks Request.IsPlain := by
  cases a with
  | map q => exact asks_replying _ (asks_map q)
  | unmap r => exact asks_replying _ (asks_unmap r)
  | protect r prot => exact asks_replying _ (asks_pass r _ _)
  | lock r => exact asks_replying _ (asks_pass r _ _)
  | unlock r => exact asks_replying _ (asks_pass r _ _)
  | advise r advice => exact asks_replying _ (asks_pass r _ _)
  | sync r flags => exact asks_replying _ (asks_pass r _ _)
  | contains r => exact asks_replying _ asks_get
  | info r => exact asks_replying _ asks_get

end Mapping

namespace Context

open Mapping (MapEnd LiveSet)

/-! ## Mapping a whole file -/

theorem asks_mapFile (fd : Fd) (len : UInt64) (prot : Int32) :
    (mapFile fd len prot).Asks Request.IsPlain := by
  refine asks_bind (asks_require _ _) fun _ => ?_
  split
  · exact asks_fail _
  · refine asks_bind (asks_call trivial _) fun _ => ?_
    refine asks_bind (asks_within _ _ (asks_mapError _ (Mapping.asks_map _))) fun range => ?_
    exact asks_bind (asks_note trivial) fun _ => asks_pure _

theorem fileSize?_eq_some_iff {len : UInt64} {size : Int64} :
    fileSize? len = some size ↔ len.toNat < 2 ^ 63 ∧ size = Int64.ofNat len.toNat := by
  unfold fileSize?
  split
  · next hfits => simp [hfits, eq_comm]
  · next hfits => simp [hfits]

theorem toInt_of_fileSize? {len : UInt64} {size : Int64} (hsize : fileSize? len = some size) :
    size.toInt = len.toNat := by
  obtain ⟨hfits, rfl⟩ := fileSize?_eq_some_iff.mp hsize
  exact Int64.toInt_ofNat_of_lt (by simpa using hfits)

/-- The system chooses where a whole file is mapped. -/
theorem isFixed_wholeFile (fd : Fd) (len : UInt64) (prot : Int32) :
    (wholeFile fd len prot).isFixed = false := by
  show decide (MapFlag.shared &&& MapFlag.fixed ≠ 0) = false
  decide

/-- A whole file that is mapped replaces nothing. -/
theorem entered_wholeFile (fd : Fd) (len : UInt64) (prot : Int32) (live : Mapping.LiveSet)
    (r : Range) : (wholeFile fd len prot).entered live r =
      Table.insert live r ((wholeFile fd len prot).register r) := by
  simp [Mapping.MapRequest.entered, Mapping.MapRequest.kept, isFixed_wholeFile]

/-- How the mapping of a whole file ends. -/
inductive MapFileEnd (g : Gateway ω) (fd : Fd) (len : UInt64) (prot : Int32) (c : Context) (w : ω) :
    Played ω (Outcome ContextError Range × Context) → Prop
  | empty (hlen : len = 0) :
      MapFileEnd g fd len prot c w ⟨(.fail (.mapping .zeroLength), c), [], w⟩
  /-- The length is no file size. -/
  | oversized (hsize : fileSize? len = none) :
      MapFileEnd g fd len prot c w ⟨(.fail (.resize .einval), c), [], w⟩
  | unsized {size answer failure w'} (hlen : len ≠ 0) (hsize : fileSize? len = some size)
      (hresize : g (.ftruncate fd size) w = (answer, w'))
      (hfail : Outcome.PassedOn .resize answer failure) :
      MapFileEnd g fd len prot c w
        ⟨(failure, c), [Call.event (.ftruncate fd size) answer], w'⟩
  | unmapped {size v w₁ p failure} (hlen : len ≠ 0) (hsize : fileSize? len = some size)
      (hresize : g (.ftruncate fd size) w = (.ok v, w₁))
      (hmap : MapEnd g (wholeFile fd len prot) c.live w₁ p)
      (hfail : Outcome.PassedOn .mapping p.value.1 failure) :
      MapFileEnd g fd len prot c w
        ⟨(failure, { c with live := p.value.2 }),
         Call.event (.ftruncate fd size) (.ok v) :: p.events, p.host⟩
  | mapped {size v w₁ p r} (hlen : len ≠ 0) (hsize : fileSize? len = some size)
      (hresize : g (.ftruncate fd size) w = (.ok v, w₁))
      (hmap : MapEnd g (wholeFile fd len prot) c.live w₁ p) (hr : p.value.1 = .ok r) :
      MapFileEnd g fd len prot c w
        ⟨(.ok r, { c with live := p.value.2 }),
         Call.event (.ftruncate fd size) (.ok v) ::
           p.events ++ [Journal.Entry.event (.mappedFile fd r)], p.host⟩

/-- **Mapping whole files.** There is no other end than those of `MapFileEnd`. -/
theorem mapFile_ends (g : Gateway ω) (fd : Fd) (len : UInt64) (prot : Int32) (c : Context)
    (w : ω) : MapFileEnd g fd len prot c w ((mapFile fd len prot c).run g.host w) := by
  rw [mapFile, run_bind, run_require]
  by_cases hlen : len = 0
  · simpa [hlen] using MapFileEnd.empty hlen
  simp only [ne_eq, hlen, not_false_eq_true, decide_true, ↓reduceIte, Played.andThen_ok_nil]
  cases hsize : fileSize? len with
  | none => exact .oversized hsize
  | some size =>
    dsimp only
    rw [run_bind, run_call]
    rcases hresize : g (.ftruncate fd size) w with ⟨answer, w₁⟩
    cases answer with
    | fail e => exact .unsized hlen hsize hresize (.fail e)
    | panic text => exact .unsized hlen hsize hresize (.panic text)
    | ok v =>
      dsimp only [Outcome.mapError, Played.andThen_ok]
      rw [run_bind, onMappings, run_within, run_mapError]
      have hmap := Mapping.map_ends g (wholeFile fd len prot) c.live w₁
      generalize (Mapping.map (wholeFile fd len prot) c.live).run g.host w₁ = p at hmap
      rcases p with ⟨⟨o, live⟩, es, w₂⟩
      cases o with
      | ok r => simpa [run_bind, run_note, run_pure] using .mapped hlen hsize hresize hmap rfl
      | fail e => exact .unmapped hlen hsize hresize hmap (.fail e)
      | panic text => exact .unmapped hlen hsize hresize hmap (.panic text)

/-! ## Actions -/

/-- What may be done with a context: whatever may be done with its registry, and what concerns
files. -/
inductive Action
  | registry (a : Mapping.Action)
  | mapFile (fd : Fd) (len : UInt64) (prot : Int32)
  | create (name : String) (flags : UInt32)
  | createUnnamed
  | removeCloseOnExec (fd : Fd)
  deriving DecidableEq, Repr

/-- What an action returns. -/
inductive Reply
  | registry (reply : Mapping.Reply)
  | mapped (r : Range)
  | file (f : File.AnonymousFile)
  | descriptor (fd : Fd)
  deriving DecidableEq, Repr

/-- The operation that an action stands for. -/
def Action.operation : Action → Operation Context ContextError Reply
  | registry a => .registry <$> onMappings (mapError .mapping a.operation)
  | mapFile fd len prot => .mapped <$> Context.mapFile fd len prot
  | create name flags => .file <$> onFiles (mapError .file (File.Provider.create name flags))
  | createUnnamed => .file <$> onFiles (mapError .file File.Provider.createUnnamed)
  | removeCloseOnExec fd => .descriptor <$> mapError .file (File.removeCloseOnExec fd)

/-- The name and the flags of the file that an action is to create. -/
inductive Action.Creates : Action → String → UInt32 → Prop
  | create (name flags) : Creates (.create name flags) name flags
  | createUnnamed : Creates .createUnnamed File.unnamed 0

/-- How a creation by a provider ends. -/
inductive CreationEnd (h : Host ω) (name : String) (flags : UInt32) :
    File.Provider → ω → Played ω (Outcome File.Error File.AnonymousFile × File.Provider) → Prop
  | native {w p} (hend : File.NativeEnd h name flags File.Provider.native w p) :
      CreationEnd h name flags .native w p
  | emulated {e w p} (hend : File.CreateEnd h name flags e w p) :
      CreationEnd h name flags (.emulated e) w ⟨(p.value.1, .emulated p.value.2), p.events, p.host⟩

theorem creation_ends (h : Host ω) (name : String) (flags : UInt32) (provider : File.Provider)
    (w : ω) :
    CreationEnd h name flags provider w ((File.Provider.create name flags provider).run h w) := by
  cases provider with
  | native => exact .native (File.native_ends h name flags _ w)
  | emulated e =>
    rw [File.run_create_emulated]
    exact .emulated (File.create_ends h name flags e w)

/-- How an action of a context ends. -/
inductive ActionEnd (g : Gateway ω) (src : Sources ω) (c : Context) (w : ω) :
    Action → Played ω (Outcome ContextError Reply × Context) → Prop
  | registry {a p} (hend : Mapping.ActionEnd g c.live w a p) :
      ActionEnd g src c w (.registry a)
        ⟨((p.value.1.mapError .mapping).map .registry, { c with live := p.value.2 }), p.events,
          p.host⟩
  | mapFile {fd len prot p} (hend : MapFileEnd g fd len prot c w p) :
      ActionEnd g src c w (.mapFile fd len prot)
        ⟨(p.value.1.map .mapped, p.value.2), p.events, p.host⟩
  | create {a name flags p} (ha : Action.Creates a name flags)
      (hend : CreationEnd (g.hostIn src) name flags c.provider w p) :
      ActionEnd g src c w a
        ⟨((p.value.1.mapError .file).map .file, { c with provider := p.value.2 }), p.events,
          p.host⟩
  | removeCloseOnExec {fd p} (hend : File.RemoveEnd (g.hostIn src) fd c w p) :
      ActionEnd g src c w (.removeCloseOnExec fd)
        ⟨((p.value.1.mapError .file).map .descriptor, p.value.2), p.events, p.host⟩

/-- **Actions.** There is no other end than those of `ActionEnd`. -/
theorem action_ends (g : Gateway ω) (src : Sources ω) (a : Action) (c : Context) (w : ω) :
    ActionEnd g src c w a ((a.operation c).run (g.hostIn src) w) := by
  have created (a : Action) (name : String) (flags : UInt32)
      (ha : a.Creates name flags) :
      ActionEnd g src c w a
        (((Reply.file <$> onFiles (mapError .file (File.Provider.create name flags)) :
          Operation Context ContextError Reply) c).run (g.hostIn src) w) := by
    rw [run_map, onFiles, run_within, run_mapError]
    exact .create ha (creation_ends _ name flags c.provider w)
  cases a with
  | registry a =>
    rw [Action.operation, run_map, onMappings, run_within, run_mapError,
      run_hostIn (Mapping.asks_action a)]
    exact .registry (Mapping.action_ends g a c.live w)
  | mapFile fd len prot =>
    rw [Action.operation, run_map, run_hostIn (asks_mapFile fd len prot)]
    exact .mapFile (mapFile_ends g fd len prot c w)
  | create name flags => exact created _ name flags (.create name flags)
  | createUnnamed => exact created _ File.unnamed 0 .createUnnamed
  | removeCloseOnExec fd =>
    rw [Action.operation, run_map, run_mapError]
    exact .removeCloseOnExec (File.removeCloseOnExec_ends _ fd c w)

end Context

end SharedPages
