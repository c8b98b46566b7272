import Mathlib.Data.String.Basic
import SharedPages.ObjectName

/-!
# Which texts name an object

A name is checked in stages: its slashes go first, then the length, the slashes and the NULs of
the rest are looked at. Proved here, for every text:

* `isComponent_iff`: what a component may be;
* `slashes_append_stripSlashes`, `stripSlashes_slashes_append`: a text is its leading slashes and
  what comes after them, and in no other way if that has no slashes;
* `normalize_eq_ok_iff`, `normalize_eq_error_iff`: exactly the texts that spell a component are
  names, and the name of the object is a slash and that component;
* `normalize_iff_spells`: so a name that was brought into its form stays as it is, and two names
  are of one object exactly if they differ in their leading slashes only.
-/

namespace SharedPages.ObjectName

/-! ## The grammar of names -/

/-- A text that can be the component of a name. -/
structure Component (component : String) : Prop where
  nonempty : 1 ≤ component.utf8ByteSize
  short : component.utf8ByteSize ≤ 254
  slashless : '/' ∉ component.toList
  nulless : Char.ofNat 0 ∉ component.toList

/-- The text is any number of slashes, none included, and then the rest. -/
def Slashed (text rest : String) : Prop :=
  ∃ n, text.toList = List.replicate n '/' ++ rest.toList

/-- The text spells a component: slashes, then the component. -/
structure Spells (text component : String) : Prop extends Component component where
  slashed : Slashed text component

/-- The texts are the same but for the number of slashes that they begin with. -/
def SameButSlashes (text other : String) : Prop := ∃ rest, Slashed text rest ∧ Slashed other rest

theorem isComponent_iff {component : String} :
    isComponent component.toList = true ↔ Component component := by
  have hne : 1 ≤ component.utf8ByteSize ↔ component ≠ "" := by
    rw [Nat.one_le_iff_ne_zero, ne_eq, String.utf8ByteSize_eq_zero_iff]
  constructor
  · intro h
    simp only [isComponent, Bool.and_eq_true, Bool.not_eq_true', decide_eq_true_eq,
      String.ofList_toList, List.contains_eq_mem, decide_eq_false_iff_not, ne_eq,
      String.toList_eq_nil_iff, Limit.pathComponent] at h
    obtain ⟨⟨⟨hempty, hshort⟩, hslash⟩, hnul⟩ := h
    exact ⟨hne.mpr hempty, by omega, hslash, hnul⟩
  · rintro ⟨hempty, hshort, hslash, hnul⟩
    have hlt : component.utf8ByteSize < Limit.pathComponent := Nat.lt_succ_of_le hshort
    simp [isComponent, hne.mp hempty, hlt, hslash, hnul]

/-! ## Leading slashes -/

theorem slashes_append_stripSlashes (cs : List Char) :
    ∃ n, cs = List.replicate n '/' ++ stripSlashes cs := by
  induction cs with
  | nil => exact ⟨0, rfl⟩
  | cons c cs ih =>
    by_cases hc : c = '/'
    · obtain ⟨n, hn⟩ := ih
      subst hc
      exact ⟨n + 1, congrArg (List.cons '/') hn⟩
    · exact ⟨0, by simp [stripSlashes, hc]⟩

theorem stripSlashes_of_not_mem {cs : List Char} (hcs : '/' ∉ cs) : stripSlashes cs = cs := by
  cases cs with
  | nil => rfl
  | cons c cs =>
    have hc : c ≠ '/' := fun heq => hcs (heq ▸ List.mem_cons_self)
    simp [stripSlashes, hc]

/-- Slashes in front make no difference to what is left. -/
theorem stripSlashes_slashes_append (n : Nat) (cs : List Char) :
    stripSlashes (List.replicate n '/' ++ cs) = stripSlashes cs := by
  induction n with
  | zero => rfl
  | succ n ih => exact ih

theorem sameButSlashes_iff {text other : String} :
    SameButSlashes text other ↔ stripSlashes text.toList = stripSlashes other.toList := by
  constructor
  · rintro ⟨rest, ⟨n, htext⟩, ⟨m, hother⟩⟩
    rw [htext, hother, stripSlashes_slashes_append, stripSlashes_slashes_append]
  · intro h
    obtain ⟨n, htext⟩ := slashes_append_stripSlashes text.toList
    obtain ⟨m, hother⟩ := slashes_append_stripSlashes other.toList
    refine ⟨String.ofList (stripSlashes text.toList), ⟨n, ?_⟩, ⟨m, ?_⟩⟩
    · rwa [String.toList_ofList]
    · rwa [String.toList_ofList, h]

/-- A text spells at most one component: what is left of it without its slashes. -/
theorem spells_iff {text component : String} :
    Spells text component ↔ Component component ∧ stripSlashes text.toList = component.toList := by
  constructor
  · rintro ⟨hcomponent, n, htext⟩
    rw [htext, stripSlashes_slashes_append, stripSlashes_of_not_mem hcomponent.slashless]
    exact ⟨hcomponent, rfl⟩
  · rintro ⟨hcomponent, hstrip⟩
    obtain ⟨n, htext⟩ := slashes_append_stripSlashes text.toList
    exact ⟨hcomponent, n, hstrip ▸ htext⟩

/-! ## The form of a name -/

/-- A text spells a component and is brought into form, or it spells none and is refused. -/
theorem normalize_ends (text : String) :
    (∃ component, Spells text component ∧ normalize text = .ok ("/" ++ component)) ∨
      (¬ ∃ component, Spells text component) ∧ normalize text = .error .einval := by
  have hrest : (String.ofList (stripSlashes text.toList)).toList = stripSlashes text.toList :=
    String.toList_ofList ..
  by_cases h : isComponent (stripSlashes text.toList) = true
  · have hcomponent : Component (String.ofList (stripSlashes text.toList)) :=
      isComponent_iff.mp (hrest.symm ▸ h)
    refine Or.inl ⟨_, spells_iff.mpr ⟨hcomponent, hrest.symm⟩, ?_⟩
    rw [normalize, if_pos h]
    simp
  · refine Or.inr ⟨?_, if_neg h⟩
    rintro ⟨component, hspells⟩
    obtain ⟨hcomponent, hstrip⟩ := spells_iff.mp hspells
    exact h (hstrip ▸ isComponent_iff.mpr hcomponent)

theorem spells_unique {text component component' : String} (hspells : Spells text component)
    (hspells' : Spells text component') : component = component' := by
  have hstrip := (spells_iff.mp hspells).2
  rw [(spells_iff.mp hspells').2] at hstrip
  exact (String.toList_inj.mp hstrip).symm

theorem normalize_eq_ok_iff {text object : String} :
    normalize text = .ok object ↔
      ∃ component, Spells text component ∧ object = "/" ++ component := by
  rcases normalize_ends text with ⟨component, hspells, hok⟩ | ⟨hnone, herror⟩
  · rw [hok]
    constructor
    · intro h
      exact ⟨component, hspells, (Except.ok.inj h).symm⟩
    · rintro ⟨component', hspells', rfl⟩
      rw [spells_unique hspells hspells']
  · rw [herror]
    constructor
    · rintro ⟨⟩
    · rintro ⟨component, hspells, -⟩
      exact absurd ⟨component, hspells⟩ hnone

theorem normalize_eq_error_iff {text : String} :
    normalize text = .error .einval ↔ ¬ ∃ component, Spells text component := by
  rcases normalize_ends text with ⟨component, hspells, hok⟩ | ⟨hnone, herror⟩
  · rw [hok]
    constructor
    · rintro ⟨⟩
    · intro hnone
      exact absurd ⟨component, hspells⟩ hnone
  · exact ⟨fun _ => hnone, fun _ => herror⟩

theorem slash_append_inj {component component' : String} (h : "/" ++ component = "/" ++ component') :
    component = component' := by
  have hlist := congrArg String.toList h
  rw [String.toList_append, String.toList_append, List.append_cancel_left_eq] at hlist
  exact String.toList_inj.mp hlist

/-- Brought into form, a component is spelled with one slash. -/
theorem Component.spells_slash {component : String} (hcomponent : Component component) :
    Spells ("/" ++ component) component :=
  ⟨hcomponent, 1, String.toList_append ..⟩

/-- A name in its form: one slash, which comes first, and within the limit on path components. -/
structure IsObject (object : String) : Prop where
  first : object.toList.head? = some '/'
  once : object.toList.count '/' = 1
  short : object.utf8ByteSize ≤ 255

theorem Component.isObject {component : String} (hcomponent : Component component) :
    IsObject ("/" ++ component) where
  first := by rw [String.toList_append]; rfl
  once := by
    rw [String.toList_append, List.count_append, List.count_eq_zero.mpr hcomponent.slashless]
    rfl
  short := by
    have hshort := hcomponent.short
    have hslash : "/".utf8ByteSize = 1 := rfl
    rw [String.utf8ByteSize_append]
    omega

/-- **One object.** Names differ in their leading slashes only exactly if they are brought into one
form. -/
theorem normalize_eq_iff_of_ok {text other object object' : String}
    (hok : normalize text = .ok object) (hok' : normalize other = .ok object') :
    object = object' ↔ SameButSlashes text other := by
  obtain ⟨component, hspells, rfl⟩ := normalize_eq_ok_iff.mp hok
  obtain ⟨component', hspells', rfl⟩ := normalize_eq_ok_iff.mp hok'
  rw [sameButSlashes_iff, (spells_iff.mp hspells).2, (spells_iff.mp hspells').2, String.toList_inj]
  exact ⟨slash_append_inj, congrArg _⟩

/-- **Names.** Exactly the texts that are slashes and then a component are names; the name of the
object is one slash and the component, and every other text is refused. A name in its form stays
as it is, and names are of one object exactly if they differ in their leading slashes only. -/
theorem normalize_iff_spells (text : String) :
    (∀ object, normalize text = .ok object ↔
      ∃ component, Spells text component ∧ object = "/" ++ component) ∧
    (normalize text = .error .einval ↔ ¬ ∃ component, Spells text component) ∧
    ∀ object, normalize text = .ok object →
      normalize object = .ok object ∧ IsObject object ∧
      ∀ other object', normalize other = .ok object' →
        (object = object' ↔ SameButSlashes text other) := by
  refine ⟨fun object => normalize_eq_ok_iff, normalize_eq_error_iff, fun object hok => ?_⟩
  obtain ⟨component, hspells, rfl⟩ := normalize_eq_ok_iff.mp hok
  have hcomponent : Component component := hspells.toComponent
  refine ⟨normalize_eq_ok_iff.mpr ⟨component, hcomponent.spells_slash, rfl⟩, hcomponent.isObject,
    fun other object' hok' => ?_⟩
  exact normalize_eq_iff_of_ok hok hok'

/-- Letters of two bytes. -/
def letters : List Char := List.replicate 127 'é'

/-- A component of two hundred and fifty-four bytes, as long as one may be. -/
def longest : String := String.ofList letters

/-- A name of it with slashes in front. -/
def slashed : String := "///" ++ longest

theorem component_longest : Component longest where
  nonempty := by rw [longest, String.utf8ByteSize_ofList]; decide +kernel
  short := by rw [longest, String.utf8ByteSize_ofList]; decide +kernel
  slashless := by
    rw [longest, String.toList_ofList]
    exact fun h => absurd (List.eq_of_mem_replicate h) (by decide)
  nulless := by
    rw [longest, String.toList_ofList]
    exact fun h => absurd (List.eq_of_mem_replicate h) (by decide)

theorem normalize_longest :
    normalize slashed = .ok ("/" ++ longest) ∧ normalize longest = .ok ("/" ++ longest) ∧
    normalize ("/" ++ longest) = .ok ("/" ++ longest) ∧ IsObject ("/" ++ longest) ∧
    SameButSlashes slashed longest := by
  obtain ⟨hslashed, -, hform⟩ := normalize_iff_spells slashed
  obtain ⟨hplain, -, -⟩ := normalize_iff_spells longest
  have hok : normalize slashed = .ok ("/" ++ longest) :=
    (hslashed _).mpr ⟨longest, ⟨component_longest, 3, String.toList_append ..⟩, rfl⟩
  have hok' : normalize longest = .ok ("/" ++ longest) :=
    (hplain _).mpr ⟨longest, ⟨component_longest, 0, (List.nil_append _).symm⟩, rfl⟩
  obtain ⟨hstays, hobject, hsame⟩ := hform _ hok
  exact ⟨hok, hok', hstays, hobject, (hsame longest _ hok').mp rfl⟩

end SharedPages.ObjectName
