import SharedPages.Proofs.File.Serials

/-!
# Random bits in names

Sixty-four bits are drawn for each name that a creation tries, and the name keeps all of them.
Proved here, for any system, any random bits and any clock:

* `ExclusiveEnd.proposals_eq`, `CreateEnd.proposals_eq`: the names that are tried carry the words
  that were drawn, in order;
* `mix_inj`: for one file, different words are mixed into different hashes;
* `randomness_kept`: equal names have equal stems, serial numbers and hashes, and for one file
  different words give different names, whoever tries them.
-/

namespace SharedPages

/-- The word that an event has drawn for a name: random bits, or the time in their place. -/
def Event.word? : Event → Option UInt64
  | ⟨.draw, bits⟩ => bits
  | ⟨.clock, time⟩ => some time
  | _ => none

namespace File

open Operation Emulator

/-- The words that events have drawn, in order. -/
def words (es : List Event) : List UInt64 := es.filterMap Event.word?

@[simp] theorem words_nil : words [] = [] := rfl

@[simp] theorem words_append (es es' : List Event) : words (es ++ es') = words es ++ words es' :=
  List.filterMap_append

@[simp] theorem words_event (c : Call) (answer : c.Answer) (es : List Event) :
    words (c.event answer :: es) = words es := rfl

@[simp] theorem words_note (entry : Journal.Entry) (es : List Event) :
    words (entry.event :: es) = words es := rfl

/-! ## The names of a creation -/

section Names

variable {ω : Type} {h : Host ω} {w w' : ω} {name : String} {e : Emulator}

theorem Drawn.words_eq {bits : UInt64} {es : List Event} (hdrawn : Drawn h w bits es w') :
    words es = [bits] := by
  cases hdrawn <;> rfl

theorem Provisional.Concerns.word?_eq_none {o : Provisional} {event : Event}
    (hevent : o.Concerns event.request) : event.word? = none := by
  rcases event with ⟨r, answer⟩
  cases r with
  | draw => cases hevent
  | clock => cases hevent
  | _ => rfl

theorem FinishEnd.words_eq_nil {flags : UInt32} {o : Provisional}
    {p : Played ω (Outcome Error AnonymousFile × Emulator)}
    (hend : FinishEnd h name flags o e w p) : words p.events = [] :=
  List.filterMap_eq_nil_iff.mpr fun event hevent => (hend.concerns event hevent).word?_eq_none

/-- The candidates for a name that words make with successive serial numbers. -/
def candidates (e : Emulator) (name : String) (words : List UInt64) : List String :=
  words.mapIdx fun i bits => candidate e.config.stem (e.serial + UInt32.ofNat i) (mix bits name)

@[simp] theorem candidates_nil (e : Emulator) (name : String) : candidates e name [] = [] := rfl

@[simp] theorem candidates_cons (e : Emulator) (name : String) (bits : UInt64)
    (words : List UInt64) :
    candidates e name (bits :: words) =
      e.proposal name bits :: candidates e.advanced name words := by
  have hzero : e.serial + UInt32.ofNat 0 = e.serial := UInt32.add_zero e.serial
  simp only [candidates, List.mapIdx_cons, advanced, add_ofNat_succ, proposal, hzero]

theorem getElem?_candidates {words : List UInt64} {i : Nat} {bits : UInt64}
    (hbits : words[i]? = some bits) : (candidates e name words)[i]? =
      some (candidate e.config.stem (e.serial + UInt32.ofNat i) (mix bits name)) := by
  rw [candidates, List.getElem?_mapIdx, hbits, Option.map_some]

/-- Each candidate can be taken apart again. -/
theorem map_parts?_candidates (e : Emulator) (name : String) (words : List UInt64) :
    (candidates e name words).map parts? = words.mapIdx fun i bits =>
      some ⟨e.config.stem, e.serial + UInt32.ofNat i, mix bits name⟩ := by
  refine List.ext_getElem? fun i => ?_
  rw [List.getElem?_map, candidates, List.getElem?_mapIdx, List.getElem?_mapIdx, Option.map_map]
  simp only [Function.comp_def, parts?_candidate]

/-- **Searches.** Each attempt draws a word and tries the name that carries it. -/
theorem ExclusiveEnd.proposals_eq {left count : Nat}
    {p : Played ω (Outcome Error Provisional × Emulator)}
    (hend : ExclusiveEnd h name left count e w p) :
    proposals p.events = candidates e name (words p.events) := by
  induction hend with
  | exhausted => rfl
  | opened hdrawn _ => simp [hdrawn.proposals_eq_nil, hdrawn.words_eq]
  | taken hdrawn _ _ _ ih => simp [hdrawn.proposals_eq_nil, hdrawn.words_eq, ih]
  | failed hdrawn _ _ => simp [hdrawn.proposals_eq_nil, hdrawn.words_eq]
  | panicked hdrawn _ => simp [hdrawn.proposals_eq_nil, hdrawn.words_eq]

/-- **Creations.** Nothing is drawn but for the names that are tried. -/
theorem CreateEnd.proposals_eq {flags : UInt32}
    {p : Played ω (Outcome Error AnonymousFile × Emulator)} (hend : CreateEnd h name flags e w p) :
    proposals p.events = candidates e name (words p.events) := by
  cases hend with
  | refused hfault => rfl
  | unopened hfault hsearch hfail => exact hsearch.proposals_eq
  | opened hfault hsearch hfinish =>
    rw [proposals_append, hfinish.proposals_eq_nil, words_append, hfinish.words_eq_nil,
      List.append_nil, List.append_nil]
    exact hsearch.proposals_eq

end Names

/-! ## Different words -/

theorem mix_inj {random random' : UInt64} {name : String} :
    mix random name = mix random' name ↔ random = random' :=
  UInt64.xor_left_inj (Text.fnv1a (Text.bytesOf name))

/-- **Random bits.** Two candidates are equal if and only if their stems, their serial numbers and
their mixed hashes are, and all three can be read back. So it is with the names that two creations
try, by whatever emulations on whatever systems: each carries the word that was drawn for it, and
where the files have the same name, different words make different names. -/
theorem randomness_kept :
    (∀ stem stem' serial serial' name name' random random',
      candidate stem serial (mix random name) = candidate stem' serial' (mix random' name') ↔
        stem = stem' ∧ serial = serial' ∧
          random ^^^ Text.fnv1a (Text.bytesOf name) =
            random' ^^^ Text.fnv1a (Text.bytesOf name')) ∧
    (∀ text stem serial mixed,
      parts? text = some ⟨stem, serial, mixed⟩ ↔ text = candidate stem serial mixed) ∧
    ∀ (ω ω' : Type) (h : Host ω) (h' : Host ω') (name name' : String) (flags flags' : UInt32)
      (e e' : Emulator) (w : ω) (w' : ω'),
      let p := (Emulator.create name flags e).run h w
      let p' := (Emulator.create name' flags' e').run h' w'
      (proposals p.events).map parts? = (words p.events).mapIdx (fun i bits =>
        some ⟨e.config.stem, e.serial + UInt32.ofNat i,
          bits ^^^ Text.fnv1a (Text.bytesOf name)⟩) ∧
      ∀ (i j : Nat) (bits bits' : UInt64),
        (words p.events)[i]? = some bits → (words p'.events)[j]? = some bits' →
        ∃ text text',
          (proposals p.events)[i]? = some text ∧ (proposals p'.events)[j]? = some text' ∧
          (text = text' ↔ e.config.stem = e'.config.stem ∧
            e.serial + UInt32.ofNat i = e'.serial + UInt32.ofNat j ∧
            bits ^^^ Text.fnv1a (Text.bytesOf name) =
              bits' ^^^ Text.fnv1a (Text.bytesOf name')) ∧
          (name = name' → bits ≠ bits' → text ≠ text') := by
  refine ⟨fun _ _ _ _ _ _ _ _ => candidate_inj, fun _ _ _ _ => parts?_eq_some_iff, ?_⟩
  intro ω ω' h h' name name' flags flags' e e' w w' p p'
  have hnames : proposals p.events = candidates e name (words p.events) :=
    (create_ends h name flags e w).proposals_eq
  have hnames' : proposals p'.events = candidates e' name' (words p'.events) :=
    (create_ends h' name' flags' e' w').proposals_eq
  refine ⟨?_, fun i j bits bits' hbits hbits' => ?_⟩
  · rw [hnames]
    exact map_parts?_candidates e name (words p.events)
  · refine ⟨_, _, by rw [hnames]; exact getElem?_candidates hbits,
      by rw [hnames']; exact getElem?_candidates hbits', candidate_inj, ?_⟩
    rintro rfl hne heq
    exact hne (mix_inj.mp (candidate_inj.mp heq).2.2)

/-- A system in which so many words are drawn, and in which some names are taken. -/
def drawing (names : List String) (words : List UInt64) : Scripted := .start names 0 (words.map some)

/-- Two processes begin with the same serial number. The first one finds its first name taken. -/
theorem randomness_kept_afresh :
    let fresh := Emulator.start .standard
    let p := (Emulator.create "a" 0 fresh).run Scripted.host
      (drawing ["/" ++ fresh.proposal "a" 7] [7, 8])
    let p' := (Emulator.create "a" 0 fresh).run Scripted.host (drawing [] [9])
    words p.events = [7, 8] ∧ words p'.events = [9] ∧
      ∃ text text', (proposals p.events)[0]? = some text ∧
        (proposals p'.events)[0]? = some text' ∧ text ≠ text' := by
  intro fresh p p'
  have hwords : words p.events = [7, 8] := by decide +kernel
  have hwords' : words p'.events = [9] := by decide +kernel
  obtain ⟨text, text', htext, htext', -, hne⟩ :=
    (randomness_kept.2.2 Scripted Scripted Scripted.host Scripted.host "a" "a" 0 0 fresh fresh
      (drawing ["/" ++ fresh.proposal "a" 7] [7, 8]) (drawing [] [9])).2 0 0 7 9
      (by rw [hwords]; rfl) (by rw [hwords']; rfl)
  exact ⟨hwords, hwords', text, text', htext, htext', hne rfl (by decide)⟩

end File

end SharedPages
