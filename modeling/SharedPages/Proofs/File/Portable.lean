import SharedPages.Proofs.File.Serials

/-!
# Portable names

Three bounds have to agree for a candidate to be the name of an object on every system: the one on
stems, the width of the digits behind them, and the one of the gateway on names. Proved here:

* `portable_candidate`: a candidate with a valid stem is portable;
* `withStem_of_stemForm`, `withStem_of_not_stemForm`: which texts can be a stem;
* `named_of_createEnd`: a creation tries portable names only, and removes none but the one that it
  opened;
* `portable_of_configured`: so it is for every configuration that there is.
-/

namespace SharedPages

/-! ## Names that every system takes -/

/-- An object name that needs nothing but its slash: it stays within the shortest limit, and the
check in front of a kernel passes it on as it is. -/
structure Portable (name : String) : Prop where
  slashless : '/' ∉ name.toList
  nulless : Char.ofNat 0 ∉ name.toList
  short : ("/" ++ name).utf8ByteSize ≤ 31
  normal : ObjectName.normalize name = .ok ("/" ++ name)
  opens : ∀ {ω : Type} (kernel : Gateway ω) (flags : Int32) (mode : UInt32) (w : ω),
    Gateway.checkingNames kernel (.shmOpen name flags mode) w =
      kernel (.shmOpen ("/" ++ name) flags mode) w
  unlinks : ∀ {ω : Type} (kernel : Gateway ω) (w : ω),
    Gateway.checkingNames kernel (.shmUnlink name) w = kernel (.shmUnlink ("/" ++ name)) w

namespace File

theorem slash_append (name : String) : "/" ++ name = String.ofList ('/' :: name.toList) := by
  simp

/-- **Candidates.** What makes a stem valid makes its candidates portable. -/
theorem portable_candidate {stem : String} (hstem : isStem stem = true) (serial : UInt32)
    (mixed : UInt64) : Portable (candidate stem serial mixed) := by
  obtain ⟨-, hslash, hnul⟩ := isStem_iff.mp hstem
  have hnormal : ObjectName.normalize (candidate stem serial mixed) =
      .ok ("/" ++ candidate stem serial mixed) := by
    rw [slash_append]
    exact normalize_candidate hstem
  refine ⟨not_mem_candidate hslash (by decide), not_mem_candidate hnul (by decide), ?_, hnormal,
    fun kernel flags mode w => by rw [Gateway.checkingNames, hnormal],
    fun kernel w => by rw [Gateway.checkingNames, hnormal]⟩
  have hshort : (candidate stem serial mixed).utf8ByteSize + 1 ≤ Limit.portableName :=
    utf8ByteSize_candidate_le hstem
  rw [String.utf8ByteSize_append, Nat.add_comm]
  exact hshort

/-! ## Configurations -/

/-- A text has the form of a stem. -/
structure StemForm (text : String) : Prop where
  short : text.utf8ByteSize ≤ 6
  slashless : '/' ∉ text.toList
  nulless : Char.ofNat 0 ∉ text.toList

theorem stemForm_iff {text : String} : StemForm text ↔ isStem text = true := by
  rw [isStem_iff]
  exact ⟨fun ⟨hshort, hslash, hnul⟩ => ⟨hshort, hslash, hnul⟩,
    fun ⟨hshort, hslash, hnul⟩ => ⟨hshort, hslash, hnul⟩⟩

instance (text : String) : Decidable (StemForm text) := decidable_of_iff _ stemForm_iff.symm

/-- A text of this form becomes the stem, and nothing else changes. -/
theorem withStem_of_stemForm {text : String} (htext : StemForm text) (c : Config) :
    ∃ c', c.withStem text = .ok c' ∧ c'.stem = text ∧ c'.maxAttempts = c.maxAttempts :=
  ⟨_, dif_pos (stemForm_iff.mp htext), rfl, rfl⟩

/-- Any other text is refused. -/
theorem withStem_of_not_stemForm {text : String} (htext : ¬ StemForm text) (c : Config) :
    c.withStem text = .error (.invalidStem text) :=
  dif_neg fun hstem => htext (stemForm_iff.mpr hstem)

/-- A change that a client asks for. -/
inductive Setting
  | stem (text : String)
  | maxAttempts (n : Nat)

/-- Change a configuration. A text that is refused as a stem leaves it as it was. -/
def Config.set (c : Config) : Setting → Config
  | .stem text =>
    match c.withStem text with
    | .ok c' => c'
    | .error _ => c
  | .maxAttempts n => c.withMaxAttempts n

theorem set_of_not_stemForm {text : String} (htext : ¬ StemForm text) (c : Config) :
    c.set (.stem text) = c := by
  rw [Config.set, withStem_of_not_stemForm htext]

/-- The standard configuration after changes. -/
def configured (settings : List Setting) : Config := settings.foldl Config.set .standard

/-! ## Creations -/

/-- What events ask for in the way of names: only portable ones are tried, and a name is removed
only if it is that of the one object that was opened. -/
structure Named (es : List Event) : Prop where
  tried : ∀ name ∈ proposals es, Portable name
  removed : ∀ name ∈ es.filterMap (·.request.unlinking?),
    Portable name ∧ ∃ fd, es.filterMap Event.opened? = [(name, fd)]

section Creations

variable {ω : Type} {h : Host ω} {name : String} {flags : UInt32} {e : Emulator} {w : ω}

theorem Provisional.Concerns.eq_of_unlinking? {o : Provisional} {r : Request} {name : String}
    (hr : o.Concerns r) (hname : r.unlinking? = some name) : name = o.name := by
  cases r with
  | call c =>
    cases c with
    | shmUnlink name' => exact (Option.some.inj hname).symm.trans hr
    | _ => cases hname
  | _ => cases hname

/-- The names that a search tries are candidates of its emulation. -/
theorem ExclusiveEnd.portable {left count : Nat}
    {p : Played ω (Outcome Error Provisional × Emulator)}
    (hend : ExclusiveEnd h name left count e w p) {text : String}
    (htext : text ∈ proposals p.events) : Portable text := by
  obtain ⟨i, -, mixed, rfl⟩ := hend.advances.1.exists_of_mem htext
  exact portable_candidate e.config.stem_valid _ _

theorem ExclusiveEnd.named {left count : Nat}
    {p : Played ω (Outcome Error Provisional × Emulator)}
    (hend : ExclusiveEnd h name left count e w p) : Named p.events where
  tried _ htext := hend.portable htext
  removed text htext := by
    rw [hend.unlinking_eq_nil] at htext
    cases htext

/-- **Names.** What is opened is one of the names that were tried, and what comes after it is only
about this one. -/
theorem named_of_createEnd {p : Played ω (Outcome Error AnonymousFile × Emulator)}
    (hend : CreateEnd h name flags e w p) : Named p.events := by
  cases hend with
  | refused hfault => exact ⟨by simp, by simp⟩
  | unopened hfault hsearch hfail => exact hsearch.named
  | @opened o e₁ es w₁ p hfault hsearch hfinish =>
    obtain ⟨earlier, hes, hnone, -⟩ := hsearch.opening rfl
    dsimp only at hes
    have hopened : (es ++ p.events).filterMap Event.opened? = [(o.name, o.fd)] := by
      rw [List.filterMap_append, hfinish.opened_eq_nil, hes, List.filterMap_append, hnone]
      rfl
    constructor
    · rw [proposals_append, hfinish.proposals_eq_nil, List.append_nil]
      exact hsearch.named.tried
    · intro text htext
      rw [List.filterMap_append, hsearch.unlinking_eq_nil, List.nil_append] at htext
      obtain ⟨event, hevent, hunlink⟩ := List.mem_filterMap.mp htext
      obtain rfl := (hfinish.concerns event hevent).eq_of_unlinking? hunlink
      exact ⟨hsearch.portable (by simp [hes]), o.fd, hopened⟩

end Creations

/-- **Portable names.** For every configuration that a client can make of the standard one: every
candidate is as long as its stem and twenty-four letters, and portable. In every creation, whatever
the system answers, the check in front of the kernel lets through each name that is tried, and a
name that is removed is that of the one object that was opened. Exactly the texts that have the
form of a stem can be one. -/
theorem portable_of_configured (settings : List Setting) :
    let c := configured settings
    (∀ serial name random,
      (candidate c.stem serial (mix random name)).utf8ByteSize = c.stem.utf8ByteSize + 24 ∧
        Portable (candidate c.stem serial (mix random name))) ∧
    (∀ (ω : Type) (h : Host ω) (name : String) (flags : UInt32) (serial : UInt32)
      (files : FileTable) (w : ω),
      Named ((Emulator.create name flags ⟨c, serial, files⟩).run h w).events) ∧
    ∀ text,
      (StemForm text →
        ∃ c', c.withStem text = .ok c' ∧ c'.stem = text ∧ c'.maxAttempts = c.maxAttempts) ∧
      (¬ StemForm text →
        c.withStem text = .error (.invalidStem text) ∧ c.set (.stem text) = c) := by
  intro c
  refine ⟨fun serial name random => ⟨utf8ByteSize_candidate .., ?_⟩,
    fun ω h name flags serial files w => named_of_createEnd (create_ends h name flags _ w),
    fun text => ⟨fun htext => withStem_of_stemForm htext c,
      fun htext => ⟨withStem_of_not_stemForm htext c, set_of_not_stemForm htext c⟩⟩⟩
  exact portable_candidate c.stem_valid serial (mix random name)

/-- A stem of three letters and six bytes. What is asked for later is a path, and too long. -/
def accented : List Setting := [.stem "é:日", .maxAttempts 2, .stem "a/b", .stem "sieben!"]

/-- An emulation with this stem that has come to its last serial number. -/
def abroad : Emulator := ⟨configured accented, 0xffffffff, .empty⟩

/-- A system in which the first name is taken. -/
def preempted : Scripted :=
  .start ["/" ++ candidate "é:日" 0xffffffff (mix 7 "a")] 0 [some 7, some 8]

theorem portable_accented :
    let p := (Emulator.create "a" 0 abroad).run Scripted.host preempted
    let text := candidate "é:日" 0 (mix 8 "a")
    (proposals p.events).length = 2 ∧ (∀ name ∈ proposals p.events, Portable name) ∧
    p.events.filterMap (·.request.unlinking?) = [text] ∧
    (∃ fd, p.events.filterMap Event.opened? = [(text, fd)]) ∧
    (∃ c', abroad.config.withStem "" = .ok c' ∧ c'.stem = "" ∧
      c'.maxAttempts = abroad.config.maxAttempts) ∧
    abroad.config.withStem "a/b" = .error (.invalidStem "a/b") := by
  intro p text
  have hremoved : p.events.filterMap (·.request.unlinking?) = [text] := by decide +kernel
  obtain ⟨-, hnamed, hstems⟩ := portable_of_configured accented
  have hp : Named p.events := hnamed Scripted Scripted.host "a" 0 0xffffffff .empty preempted
  exact ⟨by decide +kernel, hp.tried, hremoved, (hp.removed text (by simp [hremoved])).2,
    (hstems "").1 (by decide +kernel), ((hstems "a/b").2 (by decide +kernel)).1⟩

end File

end SharedPages
