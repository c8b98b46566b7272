import SharedPages.Proofs.Context.Blame
import SharedPages.Proofs.File.Requests
import SharedPages.Proofs.File.Serials

/-!
# Requests that are turned down

The library judges a request before it asks the system for anything. Proved here, for every context
and every gateway in any surroundings:

* `judged_of_mapEnd`, `judged_of_createEnd`, …: an operation either passes its checks and makes its
  calls, or it is turned down and leaves everything as it was;
* `untouched_of_early`: the error of a request that is turned down comes with no call, no drawing of
  random bits and no change; all other requests reach the gateway.
-/

namespace SharedPages

open Operation

variable {ω σ α ε : Type}

/-! ## Judgements -/

/-- Nothing was asked for, there may only be notes, and everything is as it was. -/
structure Untouched (s : σ) (w : ω) (p : Played ω (α × σ)) : Prop where
  noted : ∀ event ∈ p.events, ∃ entry : Journal.Entry, event = entry.event
  state : p.value.2 = s
  host : p.host = w

/-- A request either passes and issues its calls, and then it is not turned down any more, or it
does not pass and nothing happens. -/
inductive Judged (passes : Prop) (issued : List Event → Prop) (early : ε → Prop)
    (idle : Outcome ε α → Prop) (s : σ) (w : ω) (p : Played ω (Outcome ε α × σ)) : Prop
  | passed (hpass : passes) (hissued : issued p.events)
      (hlate : ∀ error, p.value.1 = .fail error → ¬ early error)
  | refused (hpass : ¬ passes) (huntouched : Untouched s w p) (hidle : idle p.value.1)

/-- The outcome is an error of this kind. -/
def Outcome.FailsWith (early : ε → Prop) (o : Outcome ε α) : Prop :=
  ∃ error, o = .fail error ∧ early error

section Judged

variable {δ τ β : Type} {passes passes' : Prop} {issued issued' : List Event → Prop}
  {early : ε → Prop} {early' : δ → Prop} {idle : Outcome ε α → Prop} {idle' : Outcome δ β → Prop}
  {s : σ} {w : ω} {p : Played ω (Outcome ε α × σ)}

/-- A judgement stays when the outcome is given another form and the state is a part of another. -/
theorem Judged.carry (h : Judged passes issued early idle s w p) (f : Outcome ε α → Outcome δ β)
    (put : σ → τ)
    (hfail : ∀ o error', f o = .fail error' →
      ∃ error, o = .fail error ∧ (early' error' → early error))
    (hidle : ∀ o, idle o → idle' (f o)) :
    Judged passes issued early' idle' (put s) w
      ⟨(f p.value.1, put p.value.2), p.events, p.host⟩ := by
  cases h with
  | passed hpass hissued hlate =>
    refine .passed hpass hissued fun error' herror' hearly => ?_
    obtain ⟨error, herror, himp⟩ := hfail _ _ herror'
    exact hlate error herror (himp hearly)
  | refused hpass huntouched hrefused =>
    exact .refused hpass ⟨huntouched.noted, congrArg put huntouched.state, huntouched.host⟩
      (hidle _ hrefused)

theorem Judged.imp (h : Judged passes issued early idle s w p) (hpass : passes ↔ passes')
    (hissued : ∀ es, issued es → issued' es) : Judged passes' issued' early idle s w p := by
  cases h with
  | passed hpassed hissue hlate => exact .passed (hpass.mp hpassed) (hissued _ hissue) hlate
  | refused hrefused huntouched hidle => exact .refused (hrefused ∘ hpass.mpr) huntouched hidle

end Judged

/-! ## The registry -/

namespace Mapping

/-- The errors of requests that the registry turns down. -/
inductive Error.Early : Error → Prop
  | zeroLength : Early .zeroLength
  | unknownRange : Early .unknownRange
  | partialOverlap : Early .partialOverlap

theorem early_refusal (r : Range) : (refusal r).Early := by
  unfold refusal
  split
  · exact .zeroLength
  · exact .unknownRange

/-- The action passes the checks of the registry: a request for a mapping has a length, and, if it
is fixed, covers every registration that it overlaps; any other request is about exactly a live
registration. -/
def Action.Reaches (live : LiveSet) : Action → Prop
  | map q => q.len ≠ 0 ∧ (q.isFixed = true → ∀ known ∈ live.active,
      q.range.overlaps known.range = true → q.range.covers known.range = true)
  | unmap r => live.contains r = true
  | protect r _ => live.contains r = true
  | lock r => live.contains r = true
  | unlock r => live.contains r = true
  | advise r _ => live.contains r = true
  | sync r _ => live.contains r = true
  | contains _ => False
  | info _ => False

/-- The calls that an action makes. A request for a mapping may also unmap what it was given. -/
def Action.Issued : Action → List Event → Prop
  | map q, es => (calls es).filter (fun c => c.kind = .mmap) = [q.toCall]
  | unmap r, es => calls es = [.munmap r]
  | protect r prot, es => calls es = [.mprotect r prot]
  | lock r, es => calls es = [.mlock r]
  | unlock r, es => calls es = [.munlock r]
  | advise r advice, es => calls es = [.madvise r advice]
  | sync r flags, es => calls es = [.msync r flags]
  | contains _, es => calls es = []
  | info _, es => calls es = []

/-- What an action returns that does not reach the gateway. -/
inductive Action.Idle (live : LiveSet) : Action → Outcome Error Reply → Prop
  | early {a error} (herror : error.Early) : Idle live a (.fail error)
  | looked {a reply} (ha : Action.Looks live a reply) : Idle live a (.ok reply)

section Registry

variable {g : Gateway ω} {live : LiveSet} {w : ω} {q : MapRequest} {r : Range}

theorem accepted_iff : q.Accepted live ↔ (Action.map q).Reaches live := by
  have hsplit : live.wouldSplit q.range = false ↔ ∀ known ∈ live.active,
      q.range.overlaps known.range = true → q.range.covers known.range = true := by
    simp [LiveSet.wouldSplit, Range.splits, Range.overlaps_comm q.range]
  rw [MapRequest.Accepted, Action.Reaches, hsplit]

/-- **Requests for mappings.** -/
theorem judged_of_mapEnd {p : Played ω (Outcome Error Range × LiveSet)}
    (hend : MapEnd g q live w p) :
    Judged (q.Accepted live) (Action.map q).Issued Error.Early (Outcome.FailsWith Error.Early)
      live w p := by
  cases hend with
  | empty hlen =>
    exact .refused (fun hq => hq.1 hlen) ⟨by simp, rfl, rfl⟩ ⟨_, rfl, .zeroLength⟩
  | split hlen hfixed hsplit =>
    refine .refused (fun hq => ?_) ⟨by simp, rfl, rfl⟩ ⟨_, rfl, .partialOverlap⟩
    rw [hq.2 hfixed] at hsplit
    cases hsplit
  | failed hq hmap => exact .passed hq rfl (by rintro _ ⟨⟩ ⟨⟩)
  | panicked hq hmap => exact .passed hq rfl (by rintro _ ⟨⟩)
  | null hq hmap hunmap => exact .passed hq rfl (by rintro _ ⟨⟩ ⟨⟩)
  | nullKept hq hmap hunmap => exact .passed hq rfl (by rintro _ ⟨⟩ ⟨⟩)
  | nullPanicked hq hmap hunmap => exact .passed hq rfl (by rintro _ ⟨⟩)
  | mapped hq hbase hmap => exact .passed hq (by simp [Action.Issued]) (by rintro _ ⟨⟩)

theorem contains_of_some {known : Registration} (hr : live.info r = some known) :
    live.contains r = true := (LiveSet.contains_iff live r).mpr ⟨known, hr⟩

theorem not_contains_of_none (hr : live.info r = none) : ¬ live.contains r = true := by
  simp [LiveSet.contains, hr]

/-- **Unmappings.** -/
theorem judged_of_unmapEnd {p : Played ω (Outcome Error Unit × LiveSet)}
    (hend : UnmapEnd g r live w p) :
    Judged (live.contains r = true) (Action.unmap r).Issued Error.Early
      (Outcome.FailsWith Error.Early) live w p := by
  cases hend with
  | refused hr =>
    exact .refused (not_contains_of_none hr) ⟨by simp, rfl, rfl⟩ ⟨_, rfl, early_refusal r⟩
  | unmapped hr hunmap => exact .passed (contains_of_some hr) rfl (by rintro _ ⟨⟩)
  | failed hr hunmap => exact .passed (contains_of_some hr) rfl (by rintro _ ⟨⟩ ⟨⟩)
  | panicked hr hunmap => exact .passed (contains_of_some hr) rfl (by rintro _ ⟨⟩)

/-- **Requests that are passed on.** -/
theorem judged_of_passEnd {a : Action} {c : Call} {toError : Errno → Error}
    (ha : a.Passes r c toError) {p : Played ω (Outcome Error c.Value × LiveSet)}
    (hend : PassEnd g r c toError live w p) :
    Judged (a.Reaches live) a.Issued Error.Early (Outcome.FailsWith Error.Early) live w p := by
  have hreaches : live.contains r = true ↔ a.Reaches live := by cases ha <;> exact Iff.rfl
  have hissued (answer : c.Answer) : a.Issued [c.event answer] := by cases ha <;> rfl
  have hlate (e : Errno) : ¬ (toError e).Early := by cases ha <;> rintro ⟨⟩
  cases hend with
  | refused hr =>
    exact .refused (not_contains_of_none hr ∘ hreaches.mpr) ⟨by simp, rfl, rfl⟩
      ⟨_, rfl, early_refusal r⟩
  | @answered known answer w' hr hcall =>
    refine .passed (hreaches.mp (contains_of_some hr)) (hissued answer) fun error herror => ?_
    obtain ⟨e, -, rfl⟩ := Outcome.eq_fail_of_mapError herror
    exact hlate e

/-- A reply is no error. -/
theorem Judged.reply {β : Type} {passes : Prop} {issued : List Event → Prop} {a : Action}
    {p : Played ω (Outcome Error β × LiveSet)} (f : β → Reply)
    (h : Judged passes issued Error.Early (Outcome.FailsWith Error.Early) live w p) :
    Judged passes issued Error.Early (a.Idle live) live w
      ⟨(p.value.1.map f, p.value.2), p.events, p.host⟩ := by
  refine h.carry (Outcome.map f) id (fun o error herror => ?_) (fun o ho => ?_)
  · exact ⟨error, Outcome.eq_fail_of_map herror, id⟩
  · obtain ⟨error, rfl, hearly⟩ := ho
    exact .early hearly

/-- **Actions of the registry.** -/
theorem judged_of_actionEnd {a : Action} {p : Played ω (Outcome Error Reply × LiveSet)}
    (hend : ActionEnd g live w a p) :
    Judged (a.Reaches live) a.Issued Error.Early (a.Idle live) live w p := by
  cases hend with
  | map h => exact (Judged.reply _ (judged_of_mapEnd h)).imp accepted_iff fun _ => id
  | unmap h => exact Judged.reply _ (judged_of_unmapEnd h)
  | pass ha h => exact Judged.reply _ (judged_of_passEnd ha h)
  | look ha => exact .refused (by cases ha <;> exact id) ⟨by simp, rfl, rfl⟩ (.looked ha)

end Registry

end Mapping

/-! ## Files -/

namespace File

/-- The calls that a creation makes: the native provider asks for a memory file, the emulation
tries to open a named object, once or more often. -/
def Provider.Issued (name : String) (flags : UInt32) : Provider → List Event → Prop
  | native, es => calls es = [.memfdCreate name flags]
  | emulated _, es => proposals es ≠ []

variable {h : Host ω} {name : String} {flags : UInt32} {w : ω}

/-- A search that has an attempt proposes a name. -/
theorem ExclusiveEnd.proposals_ne_nil {left count : Nat} {e : Emulator}
    {p : Played ω (Outcome Error Provisional × Emulator)}
    (hend : ExclusiveEnd h name left count e w p) (hleft : 0 < left) : proposals p.events ≠ [] := by
  cases hend with
  | exhausted => exact absurd hleft (Nat.lt_irrefl 0)
  | _ => simp

/-- **Creations by the emulation.** -/
theorem judged_of_createEnd {e : Emulator}
    {p : Played ω (Outcome Error AnonymousFile × Emulator)}
    (hend : CreateEnd h name flags e w p) :
    Judged (Permitted name flags) (fun es => proposals es ≠ []) Error.Early
      (Outcome.FailsWith Error.Early) e w p := by
  cases hfault : fault? name flags with
  | some error =>
    have hpass : ¬ Permitted name flags := fun hpermitted => by
      rw [fault?_eq_none_iff.mpr hpermitted] at hfault
      cases hfault
    cases hend with
    | refused hrefused =>
      exact .refused hpass ⟨by simp, rfl, rfl⟩ ⟨_, rfl, early_of_fault hrefused⟩
    | unopened hnone _ _ => cases hnone.symm.trans hfault
    | opened hnone _ _ => cases hnone.symm.trans hfault
  | none =>
    refine .passed (fault?_eq_none_iff.mp hfault) ?_ fun error herror =>
      (hend.late hfault herror).not_early
    cases hend with
    | refused hrefused => cases hrefused.symm.trans hfault
    | @unopened _ _ _ _ _ _ hsearch _ => exact hsearch.proposals_ne_nil e.config.attempts_pos
    | @opened _ _ _ _ p _ hsearch _ =>
      rw [proposals_append]
      exact List.append_ne_nil_of_left_ne_nil (hsearch.proposals_ne_nil e.config.attempts_pos) _

/-- **Native creations.** -/
theorem judged_of_nativeEnd {s : σ} {p : Played ω (Outcome Error AnonymousFile × σ)}
    (hend : NativeEnd h name flags s w p) :
    Judged (Permitted name flags) (fun es => calls es = [.memfdCreate name flags]) Error.Early
      (Outcome.FailsWith Error.Early) s w p := by
  cases hend with
  | refused hfault =>
    refine .refused (fun hpermitted => ?_) ⟨by simp, rfl, rfl⟩ ⟨_, rfl, early_of_fault hfault⟩
    rw [fault?_eq_none_iff.mpr hpermitted] at hfault
    cases hfault
  | failed hfault hcall hfail =>
    refine .passed (fault?_eq_none_iff.mp hfault) rfl fun error herror hearly => ?_
    obtain ⟨e, -, rfl⟩ := hfail.eq_fail herror
    cases hearly
  | created hfault hcall hnote =>
    exact .passed (fault?_eq_none_iff.mp hfault) rfl (by rintro _ ⟨⟩)

end File

/-! ## Contexts -/

/-- The errors of requests that a context turns down. -/
inductive ContextError.Early : ContextError → Prop
  | mapping {error} (h : error.Early) : Early (.mapping error)
  | file {error} (h : error.Early) : Early (.file error)

namespace Context

/-- The action passes the checks of the library. -/
def Action.Reaches (c : Context) : Action → Prop
  | registry a => a.Reaches c.live
  | mapFile _ len _ => len ≠ 0 ∧ len.toNat < 2 ^ 63
  | create name flags => File.Permitted name flags
  | createUnnamed => File.Permitted File.unnamed 0
  | removeCloseOnExec _ => True

/-- The calls that an action makes. A file is sized before it is mapped, and the flags of a
descriptor are read before they are changed. -/
def Action.Issued (c : Context) : Action → List Event → Prop
  | registry a, es => a.Issued es
  | mapFile fd len _, es => ∃ later, calls es = .ftruncate fd (Int64.ofNat len.toNat) :: later
  | create name flags, es => c.provider.Issued name flags es
  | createUnnamed, es => c.provider.Issued File.unnamed 0 es
  | removeCloseOnExec fd, es => ∃ later, calls es = .getFdFlags fd :: later

/-- What an action returns that does not reach the gateway: the error of a request that is turned
down, what the registry knows, or the error of a length that is no file size. -/
inductive Action.Idle (c : Context) : Action → Outcome ContextError Reply → Prop
  | early {a error} (herror : error.Early) : Idle c a (.fail error)
  | looked {a reply} (ha : Mapping.Action.Looks c.live a reply) :
      Idle c (.registry a) (.ok (.registry reply))
  | oversized {fd len prot} (hlen : 2 ^ 63 ≤ len.toNat) :
      Idle c (.mapFile fd len prot) (.fail (.resize .einval))

variable {g : Gateway ω} {src : Sources ω} {c : Context} {w : ω} {a : Action}

theorem early_of_mapping {error : Mapping.Error} (h : (ContextError.mapping error).Early) :
    error.Early := by
  cases h
  assumption

theorem early_of_file {error : File.Error} (h : (ContextError.file error).Early) :
    error.Early := by
  cases h
  assumption

/-- **Mapping whole files.** A request that the registry would turn down is not made to it. -/
theorem judged_of_mapFileEnd {fd : Fd} {len : UInt64} {prot : Int32}
    {p : Played ω (Outcome ContextError Range × Context)} (hend : MapFileEnd g fd len prot c w p) :
    Judged ((Action.mapFile fd len prot).Reaches c) ((Action.mapFile fd len prot).Issued c)
      ContextError.Early (fun o => (Action.mapFile fd len prot).Idle c (o.map .mapped)) c w p := by
  have accepted (hlen : len ≠ 0) : (wholeFile fd len prot).Accepted c.live :=
    ⟨hlen, fun hfixed => by rw [isFixed_wholeFile] at hfixed; cases hfixed⟩
  cases hend with
  | empty hlen =>
    exact .refused (fun hreaches => hreaches.1 hlen) ⟨by simp, rfl, rfl⟩
      (.early (.mapping .zeroLength))
  | oversized hsize =>
    have hlen : ¬ len.toNat < 2 ^ 63 := fun hfits => by
      rw [fileSize?_eq_some_iff.mpr ⟨hfits, rfl⟩] at hsize
      cases hsize
    exact .refused (fun hreaches => hlen hreaches.2) ⟨by simp, rfl, rfl⟩
      (.oversized (Nat.le_of_not_lt hlen))
  | unsized hlen hsize hresize hfail =>
    obtain ⟨hfits, rfl⟩ := fileSize?_eq_some_iff.mp hsize
    refine .passed ⟨hlen, hfits⟩ ⟨_, rfl⟩ fun error herror hearly => ?_
    obtain ⟨e, -, rfl⟩ := hfail.eq_fail herror
    cases hearly
  | unmapped hlen hsize hresize hmap hfail =>
    obtain ⟨hfits, rfl⟩ := fileSize?_eq_some_iff.mp hsize
    refine .passed ⟨hlen, hfits⟩ ⟨_, rfl⟩ fun error herror hearly => ?_
    cases Mapping.judged_of_mapEnd hmap with
    | refused hpass => exact hpass (accepted hlen)
    | passed _ _ hlate =>
      obtain ⟨error', herror', rfl⟩ := hfail.eq_fail herror
      exact hlate error' herror' (early_of_mapping hearly)
  | mapped hlen hsize hresize hmap hr =>
    obtain ⟨hfits, rfl⟩ := fileSize?_eq_some_iff.mp hsize
    exact .passed ⟨hlen, hfits⟩ ⟨_, rfl⟩ (by rintro _ ⟨⟩)

/-- Handing on a descriptor has no check to pass. -/
theorem judged_of_removeEnd {h : Host ω} {fd : Fd} {p : Played ω (Outcome File.Error Fd × Context)}
    (hend : File.RemoveEnd h fd c w p) :
    Judged True ((Action.removeCloseOnExec fd).Issued c) File.Error.Early
      (Outcome.FailsWith File.Error.Early) c w p := by
  cases hend with
  | cleared hread hwrite => exact .passed trivial ⟨_, rfl⟩ (by rintro _ ⟨⟩)
  | failed hstep hclose =>
    refine .passed trivial ?_ fun error herror hearly => ?_
    · cases hstep <;> exact ⟨_, rfl⟩
    · cases File.behind_eq_fail (fun e' => by rintro rfl; exact hclose.not_fail) herror
      cases hearly
  | panicked hstep hrelease =>
    refine .passed trivial ?_ (by rintro _ ⟨⟩)
    cases hstep <;> exact ⟨_, rfl⟩

/-- **Creations.** -/
theorem judged_of_creationEnd {h : Host ω} {name : String} {flags : UInt32}
    {provider : File.Provider}
    {p : Played ω (Outcome File.Error File.AnonymousFile × File.Provider)}
    (hend : CreationEnd h name flags provider w p) :
    Judged (File.Permitted name flags) (provider.Issued name flags) File.Error.Early
      (Outcome.FailsWith File.Error.Early) provider w p := by
  cases hend with
  | native hend => exact File.judged_of_nativeEnd hend
  | emulated hend =>
    exact (File.judged_of_createEnd hend).carry id File.Provider.emulated
      (fun o error herror => ⟨error, herror, id⟩) fun o => id

/-- An error of the provider is one of the context. -/
theorem Judged.ofFile {β τ : Type} {passes : Prop} {issued : List Event → Prop} {s : τ}
    {p : Played ω (Outcome File.Error β × τ)} (f : β → Reply) (put : τ → Context)
    (h : Judged passes issued File.Error.Early (Outcome.FailsWith File.Error.Early) s w p) :
    Judged passes issued ContextError.Early (a.Idle c) (put s) w
      ⟨((p.value.1.mapError .file).map f, put p.value.2), p.events, p.host⟩ := by
  refine h.carry (fun o => (o.mapError ContextError.file).map f) put
    (fun o error herror => ?_) fun o ho => ?_
  · obtain ⟨error', rfl, rfl⟩ := Outcome.eq_fail_of_mapError (Outcome.eq_fail_of_map herror)
    exact ⟨error', rfl, early_of_file⟩
  · obtain ⟨error, rfl, hearly⟩ := ho
    exact .early (.file hearly)

/-- **Actions.** -/
theorem judged_of_actionEnd {p : Played ω (Outcome ContextError Reply × Context)}
    (hend : ActionEnd g src c w a p) :
    Judged (a.Reaches c) (a.Issued c) ContextError.Early (a.Idle c) c w p := by
  cases hend with
  | registry hend =>
    refine (Mapping.judged_of_actionEnd hend).carry
      (fun o => (o.mapError ContextError.mapping).map Reply.registry)
      (fun live => { c with live := live }) (fun o error herror => ?_) fun o ho => ?_
    · obtain ⟨error', rfl, rfl⟩ := Outcome.eq_fail_of_mapError (Outcome.eq_fail_of_map herror)
      exact ⟨error', rfl, early_of_mapping⟩
    · cases ho with
      | early herror => exact .early (.mapping herror)
      | looked ha => exact .looked ha
  | mapFile hend =>
    exact (judged_of_mapFileEnd hend).carry (Outcome.map Reply.mapped) id
      (fun o error herror => ⟨error, Outcome.eq_fail_of_map herror, id⟩) fun o => id
  | create ha hend =>
    have hjudged := Judged.ofFile (a := a) (c := c) .file
      (fun provider => { c with provider := provider }) (judged_of_creationEnd hend)
    cases ha with
    | create => exact hjudged
    | createUnnamed => exact hjudged
  | removeCloseOnExec hend => exact Judged.ofFile .descriptor id (judged_of_removeEnd hend)

/-- What a creation of a request with a fault fails with. The flags are judged before the name. -/
structure Precedence (name : String) (flags : UInt32) (o : Outcome ContextError Reply) : Prop where
  unsupported : ¬ File.Supported flags →
    o = .fail (.file (.unsupportedFlags (File.unsupportedBits flags)))
  empty : File.Supported flags → name = "" → o = .fail (.file .emptyName)
  long : File.Supported flags → 249 < name.utf8ByteSize →
    o = .fail (.file (.nameTooLong name.utf8ByteSize 249))

theorem CreationEnd.value_of_fault {h : Host ω} {name : String} {flags : UInt32}
    {provider : File.Provider} {error : File.Error}
    {p : Played ω (Outcome File.Error File.AnonymousFile × File.Provider)}
    (hend : CreationEnd h name flags provider w p)
    (hfault : File.fault? name flags = some error) : p.value.1 = .fail error := by
  cases hend with
  | native hend => exact hend.value_of_fault hfault
  | emulated hend => exact hend.value_of_fault hfault

theorem precedence_of_actionEnd {name : String} {flags : UInt32}
    {p : Played ω (Outcome ContextError Reply × Context)} (hend : ActionEnd g src c w a p)
    (ha : a.Creates name flags) : Precedence name flags p.value.1 := by
  have hvalue {error : File.Error} (hfault : File.fault? name flags = some error) :
      p.value.1 = .fail (.file error) := by
    cases hend with
    | create ha' hend =>
      cases ha <;> cases ha' <;> rw [hend.value_of_fault hfault] <;> rfl
    | _ => cases ha
  exact ⟨fun h => hvalue (File.fault?_of_unsupported h),
    fun h hname => hvalue (hname ▸ File.fault?_of_empty h),
    fun h hlong => hvalue (File.fault?_of_long h hlong)⟩

/-- **Requests that are turned down.** Whatever is done with a context, in whatever state it is and
whatever the system answers: an error of a request that is turned down comes without a call, and
everything is as it was; a request that passes the checks makes its calls, and is not turned down
after that; one that does not pass makes none. -/
theorem untouched_of_early (g : Gateway ω) (src : Sources ω) (c : Context) (a : Action) (w : ω) :
    let p := (a.operation c).run (g.hostIn src) w
    (∀ error, p.value.1 = .fail error → error.Early → Untouched c w p) ∧
    (a.Reaches c → a.Issued c p.events) ∧
    (¬ a.Reaches c → Untouched c w p ∧ a.Idle c p.value.1) ∧
    ∀ name flags, a.Creates name flags → Precedence name flags p.value.1 := by
  intro p
  have hend : ActionEnd g src c w a p := action_ends g src a c w
  refine ⟨fun error herror hearly => ?_, fun hreaches => ?_, fun hreaches => ?_,
    fun name flags ha => precedence_of_actionEnd hend ha⟩
  · cases judged_of_actionEnd hend with
    | passed _ _ hlate => exact absurd hearly (hlate error herror)
    | refused _ huntouched _ => exact huntouched
  · cases judged_of_actionEnd hend with
    | passed _ hissued _ => exact hissued
    | refused hpass _ _ => exact absurd hreaches hpass
  · cases judged_of_actionEnd hend with
    | passed hpass _ _ => exact absurd hpass hreaches
    | refused _ huntouched hidle => exact ⟨huntouched, hidle⟩

/-- A name of as many bytes as are allowed, half as many letters. -/
def wideName : String := String.ofList ('x' :: List.replicate 124 'ä')

/-- Two wrong things at once, and a request at both limits. -/
theorem untouched_hasty :
    let hasty := rehearse (.create "" 0x8) (Scripted.start [] 0 [])
    let wide := rehearse (.create wideName 0xfc000007) (Scripted.start [] 0 [])
    hasty.value.1 = .fail (.file (.unsupportedFlags 0x8)) ∧
    Untouched (Context.start (.emulated (.start .standard))) (Scripted.start [] 0 []) hasty ∧
    File.proposals wide.events ≠ [] := by
  intro hasty wide
  have hvalue : hasty.value.1 = .fail (.file (.unsupportedFlags 0x8)) := by decide +kernel
  refine ⟨hvalue, ?_, ?_⟩
  · exact (untouched_of_early Scripted.perform scriptedSources _ (.create "" 0x8) _).1 _ hvalue
      (.file (.unsupportedFlags 0x8))
  · have hreaches : (Action.create wideName 0xfc000007).Reaches
        (Context.start (.emulated (.start .standard))) :=
      File.fault?_eq_none_iff.mp (by decide +kernel)
    exact (untouched_of_early Scripted.perform scriptedSources _ _ (.start [] 0 [])).2.1 hreaches

end Context

end SharedPages
