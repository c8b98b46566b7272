import SharedPages.Text.Blank

/-!
# The words of a text

`Spelled text ws` says that the text consists of the words `ws` and of blanks: each word is a
maximal run of characters that are not blank, and nothing but blanks is left over. Proved here,
for every text:

* `headWord_append`: how the first word is read;
* `spelled_words`: a text consists of its words;
* `words_eq_iff_spelled`: and of no other list of words.
-/

namespace SharedPages.Text

/-! ## Spelling -/

/-- Nothing but blanks. -/
def IsGap (gap : List Char) : Prop := ∀ c ∈ gap, isBlank c = true

/-- The text is empty or begins with a blank. -/
def Breaks (text : List Char) : Prop := ∀ c ∈ text.head?, isBlank c = true

/-- Some characters, none of them blank. -/
structure IsWord (w : Word) : Prop where
  ne_nil : w ≠ []
  solid : ∀ c ∈ w, isBlank c = false

/-- The text consists of these words, in order, and of blanks. There is no way to go on with a
word, and what is before it is over with a blank. -/
inductive Spelled : List Char → List Word → Prop
  | blank {gap : List Char} (hgap : IsGap gap) : Spelled gap []
  | word {gap rest : List Char} {w : Word} {ws : List Word} (hgap : IsGap gap) (hw : IsWord w)
      (hbreaks : Breaks rest) (hrest : Spelled rest ws) : Spelled (gap ++ (w ++ rest)) (w :: ws)

theorem isGap_nil : IsGap [] := fun _ h => nomatch h

theorem isGap_cons {c : Char} {gap : List Char} (hc : isBlank c = true) (hgap : IsGap gap) :
    IsGap (c :: gap) :=
  List.forall_mem_cons.mpr ⟨hc, hgap⟩

theorem solid_nil : ∀ c ∈ ([] : Word), isBlank c = false := fun _ h => nomatch h

theorem breaks_nil : Breaks [] := fun _ h => nomatch h

theorem breaks_cons {c : Char} (hc : isBlank c = true) (text : List Char) : Breaks (c :: text) := by
  rintro c' ⟨⟩
  exact hc

/-- One more blank in front belongs to the first gap. -/
theorem Spelled.cons_blank {c : Char} {text : List Char} {ws : List Word} (hc : isBlank c = true)
    (htext : Spelled text ws) : Spelled (c :: text) ws := by
  cases htext with
  | blank hgap => exact .blank (isGap_cons hc hgap)
  | word hgap hw hbreaks hrest => exact .word (isGap_cons hc hgap) hw hbreaks hrest

theorem Spelled.consWord {w : Word} {rest : List Char} {ws : List Word}
    (hsolid : ∀ c ∈ w, isBlank c = false) (hbreaks : Breaks rest) (hrest : Spelled rest ws) :
    Spelled (w ++ rest) (consWord w ws) := by
  by_cases hw : w = []
  · subst hw
    exact hrest
  · rw [Text.consWord, if_neg hw]
    exact .word isGap_nil ⟨hw, hsolid⟩ hbreaks hrest

theorem Spelled.isWord {text : List Char} {ws : List Word} (htext : Spelled text ws) :
    ∀ w ∈ ws, IsWord w := by
  induction htext with
  | blank hgap => exact fun w hw => nomatch hw
  | word hgap hw hbreaks hrest ih => exact List.forall_mem_cons.mpr ⟨hw, ih⟩

/-! ## Reading -/

section Head

variable {c : Char}

theorem headWord_cons_blank (hc : isBlank c = true) (text : List Char) :
    headWord (c :: text) = ([], words text) := by
  simp [headWord, hc, words]

theorem headWord_cons_solid (hc : isBlank c = false) (text : List Char) :
    headWord (c :: text) = (c :: (headWord text).1, (headWord text).2) := by
  simp [headWord, hc]

theorem words_cons_blank (hc : isBlank c = true) (text : List Char) :
    words (c :: text) = words text := by
  rw [words, headWord_cons_blank hc]
  rfl

end Head

/-- **Reading.** A text is the first word that is read, which may be empty, and a rest of which
the other words are. -/
theorem headWord_ends (text : List Char) :
    ∃ rest, text = (headWord text).1 ++ rest ∧ (∀ c ∈ (headWord text).1, isBlank c = false) ∧
      Breaks rest ∧ Spelled rest (headWord text).2 := by
  induction text with
  | nil =>
    exact ⟨[], rfl, solid_nil, breaks_nil, .blank isGap_nil⟩
  | cons c text ih =>
    obtain ⟨rest, htext, hsolid, hbreaks, hrest⟩ := ih
    cases hc : isBlank c with
    | true =>
      have hspelled : Spelled text (words text) := by
        have h := hrest.consWord hsolid hbreaks
        rwa [← htext] at h
      rw [headWord_cons_blank hc]
      exact ⟨c :: text, rfl, solid_nil, breaks_cons hc text, hspelled.cons_blank hc⟩
    | false =>
      rw [headWord_cons_solid hc]
      exact ⟨rest, congrArg (List.cons c) htext, List.forall_mem_cons.mpr ⟨hc, hsolid⟩, hbreaks,
        hrest⟩

/-- **Words.** A text consists of its words and of blanks. -/
theorem spelled_words (text : List Char) : Spelled text (words text) := by
  obtain ⟨rest, htext, hsolid, hbreaks, hrest⟩ := headWord_ends text
  have h := hrest.consWord hsolid hbreaks
  rwa [← htext] at h

theorem words_gap_append {gap : List Char} (hgap : IsGap gap) (text : List Char) :
    words (gap ++ text) = words text := by
  induction gap with
  | nil => rfl
  | cons c gap ih =>
    obtain ⟨hc, hrest⟩ := List.forall_mem_cons.mp hgap
    rw [List.cons_append, words_cons_blank hc, ih hrest]

theorem words_of_isGap {gap : List Char} (hgap : IsGap gap) : words gap = [] := by
  rw [← List.append_nil gap, words_gap_append hgap]
  rfl

theorem headWord_append {w : Word} (hsolid : ∀ c ∈ w, isBlank c = false) (text : List Char) :
    headWord (w ++ text) = (w ++ (headWord text).1, (headWord text).2) := by
  induction w with
  | nil => rfl
  | cons c w ih =>
    obtain ⟨hc, hrest⟩ := List.forall_mem_cons.mp hsolid
    rw [List.cons_append, headWord_cons_solid hc, ih hrest]
    rfl

/-- What is read first where a word cannot go on. -/
theorem headWord_of_breaks {text : List Char} (hbreaks : Breaks text) :
    headWord text = ([], words text) := by
  cases text with
  | nil => rfl
  | cons c text =>
    have hc : isBlank c = true := hbreaks c rfl
    rw [headWord_cons_blank hc, words_cons_blank hc]

theorem words_word_append {w : Word} {rest : List Char} (hw : IsWord w) (hbreaks : Breaks rest) :
    words (w ++ rest) = w :: words rest := by
  rw [words, headWord_append hw.solid, headWord_of_breaks hbreaks, List.append_nil, consWord,
    if_neg hw.ne_nil]

/-- **No other words.** What a text consists of is what is read from it. -/
theorem words_eq_iff_spelled {text : List Char} {ws : List Word} :
    words text = ws ↔ Spelled text ws := by
  constructor
  · rintro rfl
    exact spelled_words text
  · intro h
    induction h with
    | blank hgap => exact words_of_isGap hgap
    | word hgap hw hbreaks hrest ih =>
      rw [words_gap_append hgap, words_word_append hw hbreaks, ih]

end SharedPages.Text
