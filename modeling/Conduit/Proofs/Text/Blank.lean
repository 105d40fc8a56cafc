import Mathlib.Data.List.TakeWhile
import Conduit.Text.Blank
import Conduit.Proofs.Text.Ascii

/-!
# Cutting off blanks

Cutting the blanks off both ends of a text leaves a word that neither begins nor ends with one, or
nothing at all. What has been cut off are blanks, and there is only one way to cut them off. So the
word is known without the two passes over the text in which it is found.
-/

namespace Conduit.Text

/-- Nothing but blanks. -/
def Blanks (cs : List Char) : Prop :=
  ∀ c ∈ cs, isBlank c = true

/-- There is something, and it neither begins nor ends with a blank. -/
structure Tight (cs : List Char) : Prop where
  first : ∃ c rest, cs = c :: rest ∧ isBlank c = false
  last : ∃ front c, cs = front ++ [c] ∧ isBlank c = false

/-- The word is the text without the blanks around it. It is empty if the text is nothing else. -/
def Trims (text word : String) : Prop :=
  ∃ left right, Blanks left ∧ Blanks right ∧ text.toList = left ++ word.toList ++ right ∧
    (word = "" ∨ Tight word.toList)

variable {left core right : List Char}

theorem blanks_nil : Blanks [] :=
  List.forall_mem_nil _

theorem blanks_takeWhile (cs : List Char) : Blanks (cs.takeWhile isBlank) :=
  fun _ member => List.mem_takeWhile_imp member

/-- Letters and digits of ASCII are no blanks. -/
theorem isBlank_of_isAlphanum {c : Char} (plain : c.isAlphanum = true) : isBlank c = false := by
  rw [isAlphanum_iff, isUpper_iff, isLower_iff, isDigit_iff] at plain
  simp only [isBlank, blankRanges, List.any_cons, List.any_nil, Bool.or_false, Bool.or_eq_false_iff,
    Bool.and_eq_false_iff, decide_eq_false_iff_not]
  omega

/-- What the second pass cuts off are blanks. -/
theorem exists_padding_right (cs : List Char) :
    ∃ right, Blanks right ∧ cs.dropWhile isBlank = trim cs ++ right := by
  let rest := cs.dropWhile isBlank
  refine ⟨(rest.reverse.takeWhile isBlank).reverse,
    fun c member => blanks_takeWhile rest.reverse c (List.mem_reverse.1 member), ?_⟩
  rw [trim, ← List.reverse_append, List.takeWhile_append_dropWhile, List.reverse_reverse]

/-- What is cut off both ends of a text are blanks. -/
theorem exists_padding (cs : List Char) :
    ∃ left right, Blanks left ∧ Blanks right ∧ cs = left ++ trim cs ++ right := by
  obtain ⟨right, after, back⟩ := exists_padding_right cs
  refine ⟨cs.takeWhile isBlank, right, blanks_takeWhile cs, after, ?_⟩
  rw [List.append_assoc, ← back, List.takeWhile_append_dropWhile]

/-- What neither pass has cut off is no blank. -/
theorem trim_eq_nil_or_tight (cs : List Char) : trim cs = [] ∨ Tight (trim cs) := by
  obtain ⟨right, -, kept⟩ := exists_padding_right cs
  cases back : (cs.dropWhile isBlank).reverse.dropWhile isBlank with
  | nil => exact .inl (by rw [trim, back, List.reverse_nil])
  | cons last front =>
      have ends : trim cs = front.reverse ++ [last] := by rw [trim, back, List.reverse_cons]
      have dark := List.head?_dropWhile_not isBlank (cs.dropWhile isBlank).reverse
      rw [back] at dark
      refine .inr ⟨?_, front.reverse, last, ends, dark⟩
      have dark' := List.head?_dropWhile_not isBlank cs
      cases begins : trim cs with
      | nil => exact absurd (begins.symm.trans ends) (by simp)
      | cons first rest =>
          rw [kept, begins] at dark'
          exact ⟨first, rest, rfl, dark'⟩

theorem trim_of_blanks {cs : List Char} (blanks : Blanks cs) : trim cs = [] := by
  rw [trim, List.dropWhile_eq_nil_iff.2 blanks]
  rfl

/-- Blanks around a tight text are cut off, and nothing else. -/
theorem trim_padded (before : Blanks left) (tight : Tight core) (after : Blanks right) :
    trim (left ++ core ++ right) = core := by
  obtain ⟨first, rest, begins, dark⟩ := tight.first
  obtain ⟨front, last, ends, dark'⟩ := tight.last
  have front_kept : (left ++ core ++ right).dropWhile isBlank = core ++ right := by
    rw [List.append_assoc, List.dropWhile_append_of_pos before, begins, List.cons_append,
      List.dropWhile_cons_of_neg (by simp [dark])]
  have blank_back : ∀ c ∈ right.reverse, isBlank c = true :=
    fun c member => after c (List.mem_reverse.1 member)
  rw [trim, front_kept, List.reverse_append, List.dropWhile_append_of_pos blank_back, ends,
    List.reverse_concat, List.dropWhile_cons_of_neg (by simp [dark']), ← List.reverse_concat,
    List.reverse_reverse]

/-- The two passes over a text find the only word that it comes to without the blanks around it. -/
theorem trims_iff {text word : String} : Trims text word ↔ word = trimmed text := by
  constructor
  · rintro ⟨left, right, before, after, parts, nothing | tight⟩
    · subst nothing
      have blanks : Blanks text.toList := by
        rw [parts]
        exact List.forall_mem_append.2 ⟨List.forall_mem_append.2 ⟨before, blanks_nil⟩, after⟩
      rw [trimmed, trim_of_blanks blanks]
    · rw [trimmed, parts, trim_padded before tight after, String.ofList_toList]
  · rintro rfl
    obtain ⟨left, right, before, after, parts⟩ := exists_padding text.toList
    refine ⟨left, right, before, after, by rwa [trimmed, String.toList_ofList], ?_⟩
    refine (trim_eq_nil_or_tight text.toList).imp (fun nothing => ?_) fun tight => ?_
    · rw [trimmed, nothing]
    · rwa [trimmed, String.toList_ofList]

end Conduit.Text
