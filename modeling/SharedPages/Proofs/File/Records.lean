import Mathlib.Data.List.Nodup
import Mathlib.Data.List.Perm.Basic
import SharedPages.Proofs.File.Ends
import SharedPages.Proofs.Rules
import SharedPages.Proofs.Table

/-!
# The records of live files

An emulation keeps a record under the number of a descriptor, and the system uses numbers again.
The table stays right because a live file owns its descriptor: the number is not given to another
file as long as it is open. Proved here, for every system that opens descriptors under numbers
that are not open (`FreshNumbers`), whatever fails or panics:

* `made_of_createEnd`: a creation records the new file, or nothing;
* `Recorded.insert`, `Recorded.forget`: what happens to records when files come and go;
* `Recorded.lookup_iff_single`, `Recorded.openFiles_eq`: what a table of records tells.
-/

namespace SharedPages.File

open Operation

variable {ω : Type} {h : Host ω} {isOpen : ω → Fd → Prop}

/-! ## Numbers of descriptors -/

/-- A system that opens objects under numbers that are not open, and closes nothing but what is to
be closed. What becomes of that is left open, and so are all other answers. -/
structure FreshNumbers (h : Host ω) (isOpen : ω → Fd → Prop) : Prop where
  opened : ∀ {name : String} {flags mode w} {fd : Fd} {w'},
    flags &&& OpenFlag.create ≠ 0 → flags &&& OpenFlag.exclusive ≠ 0 →
      h.answer (.call (.shmOpen name flags mode)) w = (.ok fd, w') →
        ¬ isOpen w fd ∧ isOpen w' fd
  kept : ∀ {r : Request} {fd w}, isOpen w fd → r.closing? ≠ some fd → isOpen (h.answer r w).2 fd

/-- A system in which second descriptors get numbers that are not open. -/
structure FreshClones (h : Host ω) (isOpen : ω → Fd → Prop) : Prop where
  cloned : ∀ {fd w} {fd' : Fd} {w'}, h.answer (.duplicate fd) w = (.ok fd', w') →
    ¬ isOpen w fd' ∧ isOpen w' fd'

/-- What is open stays open while events close other descriptors. -/
theorem isOpen_after (sys : FreshNumbers h isOpen) {w : ω} {es : List Event} {fd : Fd}
    (hopen : isOpen w fd) (hes : fd ∉ es.filterMap (·.request.closing?)) :
    isOpen (h.after w es) fd := by
  induction es generalizing w with
  | nil => exact hopen
  | cons e es ih =>
    have hfirst : e.request.closing? ≠ some fd := fun hclosing =>
      hes (List.mem_filterMap.mpr ⟨e, List.mem_cons_self, hclosing⟩)
    have hrest : fd ∉ es.filterMap (·.request.closing?) := fun hfd =>
      hes (((List.sublist_cons_self e es).filterMap _).subset hfd)
    exact ih (sys.kept hopen hfirst) hrest

/-! ## What is closed -/

/-- A roll-back closes the descriptor of its object, and no other. -/
theorem RollBackEnd.closing {o : Provisional} {linked : Bool} {w w' : ω} {u : Outcome Error Unit}
    {es : List Event} (hback : RollBackEnd h o w linked u es w') :
    ∀ fd ∈ es.filterMap (·.request.closing?), fd = o.fd := by
  intro fd hfd
  cases hback with
  | closed hclose =>
    rw [hclose.asked fun _ => rfl] at hfd
    simpa [Request.closing?] using hfd
  | unlinked hunlink hclose =>
    rw [List.filterMap_append, hunlink.asked fun _ => rfl, hclose.asked fun _ => rfl] at hfd
    simpa [Request.closing?] using hfd
  | stuck hunlink =>
    rw [hunlink.asked fun _ => rfl] at hfd
    simp [Request.closing?] at hfd

/-- Handing a descriptor on closes it, if it does not return it, and no other. -/
theorem RemoveEnd.closing {σ : Type} {fd : Fd} {s : σ} {w : ω}
    {p : Played ω (Outcome Error Fd × σ)} (hend : RemoveEnd h fd s w p) :
    ∀ fd' ∈ p.events.filterMap (·.request.closing?), fd' = fd := by
  intro fd' hfd'
  cases hend with
  | cleared hread hwrite => simp [Request.closing?] at hfd'
  | failed hstep hclose =>
    rw [List.append_cons, List.filterMap_append, hstep.closing_eq_nil, hclose.asked fun _ => rfl]
      at hfd'
    simpa [Request.closing?] using hfd'
  | panicked hstep hrelease =>
    rw [List.append_cons, List.filterMap_append, hstep.closing_eq_nil] at hfd'
    simpa [Request.closing?] using hfd'

/-- A descriptor that was handed on is still the same, and nothing was closed. -/
theorem RemoveEnd.handed {σ : Type} {fd : Fd} {s : σ} {w : ω}
    {p : Played ω (Outcome Error Fd × σ)} (hend : RemoveEnd h fd s w p) :
    p.value.2 = s ∧ p.value.1.Meets
      (fun fd' => fd' = fd ∧ p.events.filterMap (·.request.closing?) = []) True := by
  cases hend with
  | cleared hread hwrite => exact ⟨rfl, rfl, rfl⟩
  | failed hstep hclose => exact ⟨rfl, Outcome.meets_of_not_ok (Outcome.isOk_behind rfl) trivial⟩
  | panicked hstep hrelease => exact ⟨rfl, trivial⟩

/-! ## Creations -/

/-- What a creation makes of the records and of the open descriptors. -/
structure Made (isOpen : ω → Fd → Prop) (e : Emulator) (w : ω)
    (p : Played ω (Outcome Error AnonymousFile × Emulator)) : Prop where
  kept : ∀ fd, isOpen w fd → isOpen p.host fd
  files : p.value.1.Meets (fun f => p.value.2.files = e.files.insert f.fd f.record)
    (p.value.2.files = e.files)
  file : p.value.1.Meets (fun f => f.tracked = true ∧ ¬ isOpen w f.fd ∧ isOpen p.host f.fd) True

/-- **Creations.** A file that is returned has a number of its own and is recorded; nothing is
recorded of a file that is not. -/
theorem made_of_createEnd (sys : FreshNumbers h isOpen) {name : String} {flags : UInt32}
    {e : Emulator} {w : ω} {p : Played ω (Outcome Error AnonymousFile × Emulator)}
    (hend : CreateEnd h name flags e w p) (hafter : h.after w p.events = p.host) :
    Made isOpen e w p := by
  cases hend with
  | refused hfault => exact ⟨fun _ hopen => hopen, rfl, trivial⟩
  | @unopened o e' es w' failure hfault hsearch hfail =>
    refine ⟨fun fd hopen => ?_, Outcome.meets_of_not_ok hfail.isOk hsearch.files_eq,
      Outcome.meets_of_not_ok hfail.isOk trivial⟩
    have hnone := hsearch.closing_eq_nil
    rw [← hafter]
    exact isOpen_after sys hopen (by simp [hnone])
  | @opened o e₁ es w₁ p hfault hsearch hfinish =>
    obtain ⟨earlier, hes, -, hanswer⟩ := hsearch.opening rfl
    have hnone : es.filterMap (·.request.closing?) = [] := hsearch.closing_eq_nil
    have hfiles : e₁.files = e.files := hsearch.files_eq
    have hw₁ : h.after w es = w₁ := hsearch.after_eq
    dsimp only at hes hanswer
    rw [Host.after_append, hw₁] at hafter
    -- What was open before the search was open when the object was opened.
    have hnew : ¬ isOpen w o.fd := by
      intro hopen
      rw [hes, List.filterMap_append, List.append_eq_nil_iff] at hnone
      have hstill : isOpen (h.after w earlier) o.fd := isOpen_after sys hopen (by simp [hnone.1])
      exact (sys.opened (by decide) (by decide) hanswer).1 hstill
    have hkept (fd : Fd) (hopen : isOpen w fd) : isOpen w₁ fd :=
      hw₁ ▸ isOpen_after sys hopen (by simp [hnone])
    cases hfinish with
    | @halted linked toError passed c answer w₂ failure u back w' hstep hfail hback =>
      have hnot : (u.behind failure).isOk = false := Outcome.isOk_behind hfail.isOk
      refine ⟨fun fd hopen => ?_, Outcome.meets_of_not_ok hnot hfiles,
        Outcome.meets_of_not_ok hnot trivial⟩
      rw [← hafter]
      refine isOpen_after sys (hkept fd hopen) fun hfd => ?_
      rw [List.append_cons, List.filterMap_append, hstep.closing_eq_nil, List.nil_append] at hfd
      obtain rfl := hback.closing fd hfd
      exact hnew hopen
    | finished hunlink hread hwrite hnote =>
      refine ⟨fun fd hopen => ?_, ?_, rfl, hnew, ?_⟩
      · rw [← hafter]
        exact isOpen_after sys (hkept fd hopen) (by simp [Request.closing?])
      · exact congrArg (Table.insert · o.fd (o.record name flags)) hfiles
      · have hopen := (sys.opened (by decide) (by decide) hanswer).2
        rw [← hafter]
        exact isOpen_after sys hopen (by simp [Request.closing?])

/-! ## Ownership -/

/-- Different descriptors, all of them open. -/
structure Owning (isOpen : Fd → Prop) (fds : List Fd) : Prop where
  nodup : fds.Nodup
  isOpen : ∀ fd ∈ fds, isOpen fd

section Owning

variable {opens opens' : Fd → Prop} {fds fds' : List Fd} {fd : Fd}

theorem Owning.perm (ho : Owning opens fds) (hperm : fds.Perm fds') : Owning opens fds' :=
  ⟨hperm.nodup ho.nodup, fun fd hfd => ho.isOpen fd (hperm.mem_iff.mpr hfd)⟩

theorem Owning.keep (ho : Owning opens fds) (hkept : ∀ fd ∈ fds, opens fd → opens' fd) :
    Owning opens' fds :=
  ⟨ho.nodup, fun fd hfd => hkept fd hfd (ho.isOpen fd hfd)⟩

/-- A number that was not open is not owned. -/
theorem Owning.not_mem (ho : Owning opens fds) (hnew : ¬ opens fd) : fd ∉ fds :=
  fun hfd => hnew (ho.isOpen fd hfd)

theorem Owning.cons (ho : Owning opens fds) (hnew : ¬ opens fd) (hopen : opens' fd)
    (hkept : ∀ fd, opens fd → opens' fd) : Owning opens' (fd :: fds) := by
  refine ⟨List.nodup_cons.mpr ⟨ho.not_mem hnew, ho.nodup⟩, fun fd' hfd' => ?_⟩
  rcases List.mem_cons.mp hfd' with rfl | hfd'
  · exact hopen
  · exact hkept fd' (ho.isOpen fd' hfd')

/-- A descriptor goes; whether it is closed or not, the others stay open. -/
theorem Owning.tail (ho : Owning opens (fd :: fds)) (hkept : ∀ fd' ≠ fd, opens fd' → opens' fd') :
    Owning opens' fds := by
  obtain ⟨hfd, hnodup⟩ := List.nodup_cons.mp ho.nodup
  refine ⟨hnodup, fun fd' hfd' => hkept fd' ?_ (ho.isOpen fd' (List.mem_cons_of_mem _ hfd'))⟩
  rintro rfl
  exact hfd hfd'

end Owning

/-! ## Records -/

/-- The table of a provider, an emulation, has the records of its files. -/
structure Recorded (provider : Provider) (fs : List AnonymousFile) : Prop where
  emulated : ∃ e, provider = .emulated e
  tracked : ∀ f ∈ fs, f.tracked = true
  lookup_iff : ∀ fd r, provider.lookup fd = some r ↔ ∃ f ∈ fs, f.fd = fd ∧ f.record = r

section Recorded

variable {provider : Provider} {e e' : Emulator} {f : AnonymousFile} {fs fs' : List AnonymousFile}

theorem recorded_start (config : Config) : Recorded (.emulated (.start config)) [] :=
  ⟨⟨_, rfl⟩, by simp, by simp [Provider.lookup, Emulator.start]⟩

theorem Recorded.perm (hr : Recorded provider fs) (hperm : fs.Perm fs') :
    Recorded provider fs' where
  emulated := hr.emulated
  tracked f hf := hr.tracked f (hperm.mem_iff.mpr hf)
  lookup_iff fd r := by simp only [hr.lookup_iff, hperm.mem_iff]

/-- Only the table counts. -/
theorem Recorded.congr (hr : Recorded (.emulated e) fs) (hfiles : e'.files = e.files) :
    Recorded (.emulated e') fs := by
  refine ⟨⟨e', rfl⟩, hr.tracked, fun fd r => ?_⟩
  rw [Provider.lookup, hfiles]
  exact hr.lookup_iff fd r

theorem Recorded.insert (hr : Recorded (.emulated e) fs)
    (hfiles : e'.files = e.files.insert f.fd f.record) (htracked : f.tracked = true)
    (hnew : f.fd ∉ fs.map AnonymousFile.fd) : Recorded (.emulated e') (f :: fs) := by
  refine ⟨⟨e', rfl⟩, ?_, fun fd r => ?_⟩
  · simpa [htracked] using hr.tracked
  · have hlookup : e.files.get? fd = some r ↔ ∃ g ∈ fs, g.fd = fd ∧ g.record = r :=
      hr.lookup_iff fd r
    rw [Provider.lookup, hfiles, Table.get?_insert]
    simp only [List.mem_cons, exists_eq_or_imp]
    by_cases hfd : fd = f.fd
    · -- No other file has the number, so the record is the new file's.
      subst hfd
      simp only [↓reduceIte, Option.some.injEq, true_and]
      refine ⟨Or.inl, fun hr => hr.resolve_right ?_⟩
      rintro ⟨g, hg, hgfd, -⟩
      exact hnew (hgfd ▸ List.mem_map_of_mem hg)
    · have hne : f.fd ≠ fd := fun heq => hfd heq.symm
      simp [hfd, hne, hlookup]

theorem Recorded.forget (hr : Recorded provider (f :: fs))
    (hgone : f.fd ∉ fs.map AnonymousFile.fd) : Recorded (provider.forget f) fs := by
  obtain ⟨e, rfl⟩ := hr.emulated
  have htracked : f.tracked = true := hr.tracked f List.mem_cons_self
  refine ⟨⟨_, rfl⟩, fun g hg => hr.tracked g (List.mem_cons_of_mem _ hg), fun fd r => ?_⟩
  have hlookup : e.files.get? fd = some r ↔ ∃ g ∈ f :: fs, g.fd = fd ∧ g.record = r :=
    hr.lookup_iff fd r
  rw [Provider.forget, if_pos htracked, Provider.lookup, Table.get?_erase]
  by_cases hfd : fd = f.fd
  · subst hfd
    simp only [↓reduceIte, reduceCtorEq, false_iff]
    rintro ⟨g, hg, hgfd, -⟩
    exact hgone (hgfd ▸ List.mem_map_of_mem hg)
  · have hne : f.fd ≠ fd := fun heq => hfd heq.symm
    rw [if_neg hfd, hlookup]
    simp [hne]

/-- Different files are found one by one. -/
theorem filter_eq_singleton (hnodup : (fs.map AnonymousFile.fd).Nodup) (hf : f ∈ fs) :
    fs.filter (fun g => g.fd = f.fd) = [f] := by
  induction fs with
  | nil => cases hf
  | cons g fs ih =>
    obtain ⟨hg, hrest⟩ := List.nodup_cons.mp hnodup
    rcases List.mem_cons.mp hf with rfl | hf
    · have hnone : fs.filter (fun g => g.fd = f.fd) = [] := by
        rw [List.filter_eq_nil_iff]
        intro g hmem heq
        exact hg (of_decide_eq_true heq ▸ List.mem_map_of_mem hmem)
      simp [hnone]
    · have hne : g.fd ≠ f.fd := fun heq => hg (heq ▸ List.mem_map_of_mem hf)
      simp [hne, ih hrest hf]

/-- **Numbers of records.** There are as many as there are files. -/
theorem Recorded.openFiles_eq (hr : Recorded provider fs)
    (hnodup : (fs.map AnonymousFile.fd).Nodup) : provider.openFiles = some fs.length := by
  obtain ⟨e, rfl⟩ := hr.emulated
  have hpairs : (fs.map fun f => (f.fd, f.record)).Nodup := by
    refine List.Nodup.of_map Prod.fst ?_
    rwa [List.map_map]
  have hperm : e.files.toList.Perm (fs.map fun f => (f.fd, f.record)) := by
    refine (List.perm_ext_iff_of_nodup e.files.nodup_toList hpairs).mpr fun ⟨fd, r⟩ => ?_
    rw [Table.mem_toList_iff]
    simpa [Provider.lookup] using hr.lookup_iff fd r
  have hsize : e.files.size = fs.length := by
    rw [Table.size_eq_length_toList, hperm.length_eq, List.length_map]
  exact congrArg some hsize

/-- **Look-ups.** What is found under a number is the record of the one file that has it. -/
theorem Recorded.lookup_iff_single (hr : Recorded provider fs)
    (hnodup : (fs.map AnonymousFile.fd).Nodup) (fd : Fd) (r : Record) :
    provider.lookup fd = some r ↔ ∃ f, fs.filter (fun g => g.fd = fd) = [f] ∧ f.record = r := by
  rw [hr.lookup_iff]
  constructor
  · rintro ⟨f, hf, rfl, hrec⟩
    exact ⟨f, filter_eq_singleton hnodup hf, hrec⟩
  · rintro ⟨f, hsingle, hrec⟩
    have hf : f ∈ fs.filter (fun g => g.fd = fd) := by simp [hsingle]
    obtain ⟨hmem, hfd⟩ := List.mem_filter.mp hf
    exact ⟨f, hmem, of_decide_eq_true hfd, hrec⟩

end Recorded

end SharedPages.File
