import Mathlib.Data.List.Chain
import Mathlib.Data.List.TakeWhile
import Conduit.Concept.Reference
import Conduit.Text.SnakeCase
import Conduit.Proofs.Text.Ascii

/-!
# Words in snake case

The code of a concept is a row of words in Pascal case. A word begins with a capital, or with all
the capitals of an acronym, and goes on with small letters and digits. It ends where the next one
begins: at a capital behind a small letter or a digit, and at the last capital of an acronym if a
small letter follows.

Snake case writes these words in small letters and puts underscores between them. Nothing is lost
but the capitals, and what has no capitals stays as it is.
-/

namespace Conduit.Text

/-- Is this a small letter or a digit? -/
def isSmall (c : Char) : Bool :=
  c.isLower || c.isDigit

/-- A word in snake case: a small letter, and then small letters and digits. -/
def IsSnakeWord (word : List Char) : Prop :=
  ∃ first rest, word = first :: rest ∧ first.isLower = true ∧ ∀ c ∈ rest, isSmall c = true

/-- A word in Pascal case: capitals, and then small letters and digits. Where a small letter comes
right after the capitals, there is only one of them. -/
def IsPascalWord (word : List Char) : Prop :=
  ∃ first capitals small, word = first :: (capitals ++ small) ∧
    (∀ c ∈ first :: capitals, c.isUpper = true) ∧ (∀ c ∈ small, isSmall c = true) ∧
    ∀ c ∈ small.head?, c.isLower = true → capitals = []

/-- One word ends and the next one begins here: behind a small letter or a digit, or at a capital
before a small letter. -/
def Borders (word next : List Char) : Prop :=
  (∃ c ∈ word.getLast?, isSmall c = true) ∨ ∃ c ∈ next.tail.head?, c.isLower = true

/-- The text is made up of these words. -/
structure Cut (text : List Char) (words : List (List Char)) : Prop where
  whole : words.flatten = text
  pascal : ∀ word ∈ words, IsPascalWord word
  borders : words.IsChain Borders

variable {c last : Char} {word rest cs : List Char} {words : List (List Char)}

theorem isSmall_iff : isSmall c = true ↔ c.isLower = true ∨ c.isDigit = true :=
  Bool.or_eq_true_iff

theorem isUpper_of_isSmall (small : isSmall c = true) : c.isUpper = false := by
  rw [isSmall_iff, isLower_iff, isDigit_iff] at small
  rw [Bool.eq_false_iff, Ne, isUpper_iff]
  omega

theorem isSmall_of_isUpper (upper : c.isUpper = true) : isSmall c = false := by
  rw [Bool.eq_false_iff]
  intro small
  rw [isUpper_of_isSmall small] at upper
  cases upper

/-- A letter or digit that is no capital is small. -/
theorem isSmall_of_isAlphanum (plain : c.isAlphanum = true) (other : c.isUpper = false) :
    isSmall c = true := by
  rw [isAlphanum_iff, other] at plain
  exact isSmall_iff.2 (plain.resolve_left nofun)

theorem isLower_toLower (upper : c.isUpper = true) : c.toLower.isLower = true := by
  rw [isLower_iff, toNat_toLower upper]
  have range := isUpper_iff.1 upper
  omega

theorem snakeAfter_of_isUpper {previous : Option Char} (upper : c.isUpper = true) :
    snakeAfter previous (c :: rest) =
      if beginsWord previous rest.head? then '_' :: c.toLower :: snakeAfter (some c) rest
      else c.toLower :: snakeAfter (some c) rest := by
  rw [snakeAfter, if_pos upper]

theorem snakeAfter_of_not_isUpper {previous : Option Char} (other : c.isUpper = false) :
    snakeAfter previous (c :: rest) = c :: snakeAfter (some c) rest := by
  rw [snakeAfter, if_neg (Bool.eq_false_iff.1 other)]

theorem beginsWord_iff {next : Option Char} : beginsWord (some last) next = true ↔
    isSmall last = true ∨ last.isUpper = true ∧ ∃ c ∈ next, c.isLower = true := by
  simp [beginsWord, isSmall, Option.any_eq_true]

namespace IsPascalWord

/-- A capital with all the small letters and digits behind it is a word. -/
theorem capital (upper : c.isUpper = true) : IsPascalWord ([c] ++ rest.takeWhile isSmall) :=
  ⟨c, [], rest.takeWhile isSmall, rfl, List.forall_mem_singleton.2 upper,
    fun _ member => List.mem_takeWhile_imp member, fun _ _ _ => rfl⟩

/-- Capitals take on another one, unless it begins a word with the small letter behind it. -/
theorem extend (pascal : IsPascalWord word) (ends : word.getLast? = some last)
    (upper : c.isUpper = true) (goesOn : beginsWord (some last) rest.head? = false) :
    IsPascalWord (word ++ [c] ++ rest.takeWhile isSmall) := by
  rw [Bool.eq_false_iff, Ne, beginsWord_iff, not_or] at goesOn
  obtain ⟨first, capitals, small, rfl, allUpper, allSmall, -⟩ := pascal
  have none : small = [] := by
    by_contra some
    rw [← List.cons_append, List.getLast?_append_of_ne_nil _ some] at ends
    exact goesOn.1 (allSmall last (List.mem_of_getLast? ends))
  subst none
  rw [List.append_nil] at ends
  have lastUpper := allUpper last (List.mem_of_getLast? ends)
  refine ⟨first, capitals ++ [c], rest.takeWhile isSmall, by simp, ?_,
    fun _ member => List.mem_takeWhile_imp member, fun d here lower => ?_⟩
  · rw [← List.cons_append]
    exact List.forall_mem_append.2 ⟨allUpper, List.forall_mem_singleton.2 upper⟩
  · rw [List.head?_takeWhile, Option.mem_filter_iff] at here
    exact absurd ⟨lastUpper, d, here.1, lower⟩ goesOn.2

/-- In small letters it is a word in snake case. -/
theorem isSnakeWord (pascal : IsPascalWord word) : IsSnakeWord (word.map Char.toLower) := by
  obtain ⟨first, capitals, small, rfl, allUpper, allSmall, -⟩ := pascal
  rw [List.forall_mem_cons] at allUpper
  refine ⟨first.toLower, (capitals ++ small).map Char.toLower, rfl, isLower_toLower allUpper.1, ?_⟩
  rw [List.map_append, List.forall_mem_append, List.forall_mem_map, List.forall_mem_map]
  constructor
  · exact fun c member => isSmall_iff.2 (.inl (isLower_toLower (allUpper.2 c member)))
  · intro c member
    have small := allSmall c member
    rwa [toLower_of_not_isUpper (isUpper_of_isSmall small)]

end IsPascalWord

/-- A word ends before a capital that begins the next one. -/
theorem Borders.of_beginsWord {next : List Char} (ends : word.getLast? = some last)
    (begins : beginsWord (some last) rest.head? = true)
    (starts : [c] ++ rest.takeWhile isSmall <+: next) : Borders word next := by
  rcases beginsWord_iff.1 begins with small | ⟨-, d, here, lower⟩
  · exact .inl ⟨last, ends, small⟩
  · obtain ⟨rest, rfl⟩ := List.head?_eq_some_iff.1 here
    rw [List.takeWhile_cons_of_pos (isSmall_iff.2 (.inl lower))] at starts
    obtain ⟨behind, rfl⟩ := starts
    exact .inr ⟨d, rfl, lower⟩

/-- The rest of a text, when part of a word has been written. The induction is on the rest. Carried
along is the word that this part makes with the small letters and digits that come next. -/
theorem exists_cut_after (ends : word.getLast? = some last)
    (begun : IsPascalWord (word ++ rest.takeWhile isSmall))
    (plain : ∀ c ∈ rest, c.isAlphanum = true) :
    ∃ head words, word ++ rest.takeWhile isSmall <+: head ∧ Cut (word ++ rest) (head :: words) ∧
      word.map Char.toLower ++ snakeAfter (some last) rest =
        ['_'].intercalate ((head :: words).map (List.map Char.toLower)) := by
  induction rest generalizing word last with
  | nil =>
      rw [List.takeWhile_nil, List.append_nil] at begun
      refine ⟨word, [], by simp, ⟨by simp, List.forall_mem_singleton.2 begun, .singleton _⟩, ?_⟩
      simp [snakeAfter, List.intercalate_singleton]
  | cons c rest ih =>
      rw [List.forall_mem_cons] at plain
      cases upper : c.isUpper with
      | false =>
          have small := isSmall_of_isAlphanum plain.1 upper
          rw [List.takeWhile_cons_of_pos small, List.append_cons] at begun ⊢
          obtain ⟨head, words, starts, cut, written⟩ := ih List.getLast?_concat begun plain.2
          refine ⟨head, words, starts, List.append_cons word c rest ▸ cut, ?_⟩
          rw [← written, snakeAfter_of_not_isUpper upper]
          simp [toLower_of_not_isUpper upper]
      | true =>
          have large : ¬ isSmall c = true := Bool.eq_false_iff.1 (isSmall_of_isUpper upper)
          rw [List.takeWhile_cons_of_neg large, List.append_nil] at begun ⊢
          rw [snakeAfter_of_isUpper upper]
          cases begins : beginsWord (some last) rest.head? with
          | true =>
              obtain ⟨next, words, starts, cut, written⟩ := @ih c [c] rfl (.capital upper) plain.2
              refine ⟨word, next :: words, List.prefix_rfl, ⟨?_, ?_, ?_⟩, ?_⟩
              · rw [List.flatten_cons, cut.whole, List.singleton_append]
              · exact List.forall_mem_cons.2 ⟨begun, cut.pascal⟩
              · exact cut.borders.cons_cons (.of_beginsWord ends begins starts)
              · rw [if_pos rfl, List.map_cons, List.map_cons, List.intercalate_cons_cons,
                  ← List.map_cons, ← written]
                simp
          | false =>
              obtain ⟨head, words, starts, cut, written⟩ :=
                ih List.getLast?_concat (begun.extend ends upper begins) plain.2
              rw [List.append_assoc] at starts cut
              refine ⟨head, words, (List.prefix_append _ _).trans starts, cut, ?_⟩
              rw [← written]
              simp

theorem isConceptCode_iff {code : String} : isConceptCode code = true ↔
    ∃ first rest, code.toList = first :: rest ∧ first.isUpper = true ∧
      ∀ c ∈ rest, c.isAlphanum = true := by
  rw [isConceptCode]
  cases code.toList <;> simp

theorem isAlphanum_of_isConceptCode {code : String} (isCode : isConceptCode code = true) :
    ∀ c ∈ code.toList, c.isAlphanum = true := by
  obtain ⟨first, rest, chars, upper, plain⟩ := isConceptCode_iff.1 isCode
  rw [chars]
  exact List.forall_mem_cons.2 ⟨isAlphanum_iff.2 (.inl upper), plain⟩

/-- A code is cut into words, and in snake case they are joined again. -/
theorem exists_cut {code : String} (isCode : isConceptCode code = true) :
    ∃ words, words ≠ [] ∧ Cut code.toList words ∧
      (snakeCase code).toList = ['_'].intercalate (words.map (List.map Char.toLower)) := by
  obtain ⟨first, rest, chars, upper, plain⟩ := isConceptCode_iff.1 isCode
  obtain ⟨head, words, -, cut, written⟩ := @exists_cut_after first [first] rest rfl
    (.capital upper) plain
  refine ⟨head :: words, List.cons_ne_nil head words, chars ▸ cut, ?_⟩
  rw [← written, snakeCase, String.toList_ofList, chars, snakeAfter_of_isUpper upper]
  rfl

/-- Without its underscores the text is the one that has been given, in small letters. -/
theorem filter_snakeAfter (previous : Option Char) (cs : List Char) :
    (snakeAfter previous cs).filter (· != '_') = (cs.filter (· != '_')).map Char.toLower := by
  induction cs generalizing previous with
  | nil => rfl
  | cons c rest ih =>
      cases upper : c.isUpper with
      | false =>
          rw [snakeAfter_of_not_isUpper upper, List.filter_cons, List.filter_cons, ih]
          split <;> simp [toLower_of_not_isUpper upper]
      | true =>
          have other : c ≠ '_' := by
            rintro rfl
            exact absurd upper (by decide)
          have other' : c.toLower ≠ '_' := fun same =>
            absurd (same ▸ isLower_toLower upper) (by decide)
          rw [snakeAfter_of_isUpper upper]
          split <;> simp [other, other', ih]

/-- There are no capitals in snake case. -/
theorem isUpper_of_mem_snakeAfter (previous : Option Char) (cs : List Char) :
    ∀ c ∈ snakeAfter previous cs, c.isUpper = false := by
  induction cs generalizing previous with
  | nil => exact List.forall_mem_nil _
  | cons c rest ih =>
      cases upper : c.isUpper with
      | false =>
          rw [snakeAfter_of_not_isUpper upper]
          exact List.forall_mem_cons.2 ⟨upper, ih _⟩
      | true =>
          have lower : isSmall c.toLower = true := isSmall_iff.2 (.inl (isLower_toLower upper))
          have written : ∀ d ∈ c.toLower :: snakeAfter (some c) rest, d.isUpper = false :=
            List.forall_mem_cons.2 ⟨isUpper_of_isSmall lower, ih _⟩
          rw [snakeAfter_of_isUpper upper]
          split
          · exact List.forall_mem_cons.2 ⟨by decide, written⟩
          · exact written

/-- What has no capitals is in snake case. -/
theorem snakeAfter_of_forall (previous : Option Char) (small : ∀ c ∈ cs, c.isUpper = false) :
    snakeAfter previous cs = cs := by
  induction cs generalizing previous with
  | nil => rfl
  | cons c rest ih =>
      rw [List.forall_mem_cons] at small
      rw [snakeAfter_of_not_isUpper small.1, ih _ small.2]

/-- The code of a concept is cut into words, and in snake case these are written in small letters,
with single underscores between them. Each is a word in snake case. Without the underscores they
make up the code in small letters. And whatever the text is, what is in snake case stays as it
is. -/
theorem snakeCase_words :
    (∀ code, isConceptCode code = true →
      (∃ words, words ≠ [] ∧ Cut code.toList words ∧
        (∀ word ∈ words.map (List.map Char.toLower), IsSnakeWord word) ∧
        (snakeCase code).toList = ['_'].intercalate (words.map (List.map Char.toLower))) ∧
      (snakeCase code).toList.filter (· != '_') = code.toList.map Char.toLower) ∧
    ∀ text, snakeCase (snakeCase text) = snakeCase text := by
  refine ⟨fun code isCode => ⟨?_, ?_⟩, fun text => ?_⟩
  · obtain ⟨words, some, cut, written⟩ := exists_cut isCode
    refine ⟨words, some, cut, List.forall_mem_map.2 fun word member => ?_, written⟩
    exact (cut.pascal word member).isSnakeWord
  · have plain : ∀ c ∈ code.toList, (c != '_') = true := by
      intro c member
      rw [bne_iff_ne]
      rintro rfl
      exact absurd (isAlphanum_of_isConceptCode isCode _ member) (by decide)
    rw [snakeCase, String.toList_ofList, filter_snakeAfter, List.filter_eq_self.2 plain]
  · rw [snakeCase, snakeCase, String.toList_ofList,
      snakeAfter_of_forall none (isUpper_of_mem_snakeAfter none text.toList)]

/-- An acronym is a word, and a digit belongs to the word before it. -/
theorem snakeCase_htmlPage :
    isConceptCode "HTMLPage2Text" = true ∧ snakeCase "HTMLPage2Text" = "html_page2_text" ∧
      (snakeCase "HTMLPage2Text").toList.filter (· != '_') = "htmlpage2text".toList ∧
      (∃ words, words ≠ [] ∧ Cut "HTMLPage2Text".toList words ∧
        (snakeCase "HTMLPage2Text").toList =
          ['_'].intercalate (words.map (List.map Char.toLower))) ∧
      snakeCase (snakeCase "HTMLPage2Text") = snakeCase "HTMLPage2Text" := by
  have isCode : isConceptCode "HTMLPage2Text" = true := by decide +kernel
  obtain ⟨codes, twice⟩ := snakeCase_words
  obtain ⟨⟨words, some, cut, -, written⟩, small⟩ := codes _ isCode
  exact ⟨isCode, by decide +kernel, small, ⟨words, some, cut, written⟩, twice _⟩

end Conduit.Text
