import SharedPages.Errno.Text
import SharedPages.Proofs.Text.Layout

/-!
# Filling again

Filling a text moves its words and changes nothing else: between two words there is a blank before
and after. Proved here, for all texts and widths:

* `words_append_blank`, `words_joinWith`: the words of texts that stand next to each other;
* `words_render`: a layout can be read back;
* `words_wrap`: a text has the same words before and after it is filled;
* `wrap_eq_of_words_eq`: the words of a text, if there are any, decide how it is filled;
* `wrap_wrap`: so a text that is filled twice is filled to the second width.
-/

namespace SharedPages.Text

/-! ## Words side by side -/

section Blanks

variable {c : Char}

theorem consWord_append (w : Word) (ws ws' : List Word) :
    consWord w (ws ++ ws') = consWord w ws ++ ws' := by
  by_cases hw : w = []
  · simp [consWord, hw]
  · simp [consWord, hw]

theorem headWord_append_blank (hc : isBlank c = true) (text rest : List Char) :
    headWord (text ++ c :: rest) = ((headWord text).1, (headWord text).2 ++ words rest) := by
  induction text with
  | nil => exact headWord_cons_blank hc rest
  | cons d text ih =>
    cases hd : isBlank d with
    | true =>
      have hnext : words (text ++ c :: rest) = words text ++ words rest := by
        rw [words, ih, consWord_append]
        rfl
      rw [List.cons_append, headWord_cons_blank hd, headWord_cons_blank hd, hnext]
    | false => rw [List.cons_append, headWord_cons_solid hd, headWord_cons_solid hd, ih]

/-- No word goes on beyond a blank. -/
theorem words_append_blank (hc : isBlank c = true) (text rest : List Char) :
    words (text ++ c :: rest) = words text ++ words rest := by
  rw [words, headWord_append_blank hc, consWord_append]
  rfl

/-- Joined with a blank, texts keep their words. -/
theorem words_joinWith (hc : isBlank c = true) (xs : List (List Char)) :
    words (joinWith c xs) = xs.flatMap words := by
  induction xs with
  | nil => rfl
  | cons x xs ih =>
    cases xs with
    | nil => simp [joinWith]
    | cons y rest => rw [List.flatMap_cons, joinWith, words_append_blank hc, ih]

end Blanks

/-! ## Layouts read back -/

theorem words_of_isWord {w : Word} (hw : IsWord w) : words w = [w] := by
  have h := words_word_append hw breaks_nil
  rwa [List.append_nil] at h

theorem words_lineText {line : List Word} (hline : ∀ w ∈ line, IsWord w) :
    words (lineText line) = line := by
  rw [lineText, words_joinWith (by decide)]
  induction line with
  | nil => rfl
  | cons w line ih =>
    obtain ⟨hw, hrest⟩ := List.forall_mem_cons.mp hline
    rw [List.flatMap_cons, words_of_isWord hw, ih hrest]
    rfl

/-- **Reading back.** The words of a layout that is written out are those of its lines. -/
theorem words_render {lines : List (List Word)} (hlines : ∀ w ∈ lines.flatten, IsWord w) :
    words (render lines).toList = lines.flatten := by
  rw [render, String.toList_ofList, words_joinWith (by decide)]
  induction lines with
  | nil => rfl
  | cons line lines ih =>
    obtain ⟨hline, hrest⟩ := List.forall_mem_append.mp hlines
    rw [List.map_cons, List.flatMap_cons, words_lineText hline, ih hrest]
    rfl

/-! ## Filled texts -/

/-- **No word is lost,** and none is broken or added. -/
theorem words_wrap (text : String) (width : Nat) :
    words (wrap text width).toList = words text.toList := by
  by_cases hwords : words text.toList = []
  · rw [wrap_of_no_words hwords]
  · have hflatten : (fill width (words text.toList)).flatten = words text.toList :=
      (greedy_fill width _).flatten
    have hall : ∀ w ∈ (fill width (words text.toList)).flatten, IsWord w := by
      rw [hflatten]
      exact (spelled_words text.toList).isWord
    rw [wrap_of_words hwords, words_render hall, hflatten]

/-- Texts with the same words are filled to the same text. -/
theorem wrap_eq_of_words_eq {text other : String} (hsame : words other.toList = words text.toList)
    (hwords : words text.toList ≠ []) (width : Nat) : wrap other width = wrap text width := by
  rw [wrap_of_words hwords, wrap_of_words (hsame ▸ hwords), hsame]

theorem wrap_empty (width : Nat) : wrap "" width = "" := wrap_of_no_words rfl width

end SharedPages.Text

namespace SharedPages.Errno

/-- The explanation as the catalogue has it. -/
def explanation (e : Errno) : String := ((describe e).map (·.help)).getD ""

/-- What is shown is the explanation filled to `helpWidth`, also where there is none. -/
theorem help_eq_wrap (e : Errno) : help e = Text.wrap (explanation e) helpWidth := by
  cases h : describe e with
  | none => simp [help, explanation, h, Text.wrap_empty]
  | some row => simp [help, explanation, h]

end SharedPages.Errno

namespace SharedPages.Text

/-- **Filling again.** What has been filled has all its words; filled again it is what it would be
if it were filled to the second width at once, also if it has no words. So what is filled to a width
stays as it is at this width, and what is shown for an error number can be filled to any other. -/
theorem wrap_wrap (text : String) (width₁ width₂ : Nat) :
    words (wrap text width₁).toList = words text.toList ∧
    wrap (wrap text width₁) width₂ = wrap text width₂ ∧
    wrap (wrap text width₁) width₁ = wrap text width₁ ∧
    ∀ e : Errno, words e.help.toList = words e.explanation.toList ∧
      wrap e.help width₂ = wrap e.explanation width₂ := by
  have hagain (text : String) (first second : Nat) :
      wrap (wrap text first) second = wrap text second := by
    by_cases hwords : words text.toList = []
    · rw [wrap_of_no_words hwords first]
    · exact wrap_eq_of_words_eq (words_wrap text first) hwords second
  refine ⟨words_wrap text width₁, hagain text width₁ width₂, hagain text width₁ width₁,
    fun e => ?_⟩
  rw [Errno.help_eq_wrap]
  exact ⟨words_wrap _ _, hagain _ _ _⟩

example : wrap (wrap notice 4) 9 = "né 日本語日本語\nab c d" := by decide +kernel

end SharedPages.Text
