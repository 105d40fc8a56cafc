import Conduit.Schema.FieldType
import Conduit.Proofs.Except
import Conduit.Proofs.Text.Blank

/-!
# The grammar of field types

A type is spelled by one of four words, by the name of a class, or by a type in brackets with a word
in front. Blanks may stand around the whole and just inside each pair of brackets, and nowhere else.
This is said here without the reader, as a relation between types and texts.

The reader cuts blanks off both ends and takes the last bracket of what is left for the one that
closes the first. Nothing else can follow the type in brackets, so it reads exactly the texts of the
grammar, and reads back what is written for a type.
-/

namespace Conduit

namespace FieldType

open Text

/-- The name of a class is a capital with letters and digits behind it, all of ASCII. -/
def IsClassName (cs : List Char) : Prop :=
  ∃ first rest, cs = first :: rest ∧ first.isUpper = true ∧ ∀ c ∈ rest, c.isAlphanum = true

/-- The texts that spell a type, without blanks around them. -/
inductive Spells : FieldType → List Char → Prop
  | text : Spells text "text".toList
  | number : Spells number "number".toList
  | bool : Spells bool "bool".toList
  | image : Spells image "image".toList
  | list {item : FieldType} {left inner right : List Char} (before : Blanks left)
      (spells : Spells item inner) (after : Blanks right) :
      Spells (list item) ("list[".toList ++ (left ++ inner ++ right) ++ [']'])
  | optional {value : FieldType} {left inner right : List Char} (before : Blanks left)
      (spells : Spells value inner) (after : Blanks right) :
      Spells (optional value) ("optional[".toList ++ (left ++ inner ++ right) ++ [']'])
  | record {className : String} (named : IsClassName className.toList) :
      Spells (record className) className.toList

/-- The text spells the type, with blanks around it or without. -/
def SpelledBy (type : FieldType) (text : String) : Prop :=
  ∃ left core right, Blanks left ∧ type.Spells core ∧ Blanks right ∧
    text.toList = left ++ core ++ right

/-- The records that occur in a type have the names of classes. -/
def Named : FieldType → Prop
  | list item => item.Named
  | optional value => value.Named
  | record className => IsClassName className.toList
  | _ => True

variable {type : FieldType} {cs raw inner opening : List Char}

theorem isClassName_iff : isClassName cs = true ↔ IsClassName cs := by
  cases cs with
  | nil => simp [isClassName, IsClassName]
  | cons first rest => simp [isClassName, IsClassName]

theorem IsClassName.isAlphanum (named : IsClassName cs) : ∀ c ∈ cs, c.isAlphanum = true := by
  obtain ⟨first, rest, rfl, capital, others⟩ := named
  exact List.forall_mem_cons.2 ⟨isAlphanum_iff.2 (.inl capital), others⟩

theorem IsClassName.tight (named : IsClassName cs) : Tight cs := by
  have dark : ∀ c ∈ cs, isBlank c = false :=
    fun c member => isBlank_of_isAlphanum (named.isAlphanum c member)
  obtain ⟨first, rest, begins, -⟩ := named
  have nonempty : cs ≠ [] := begins ▸ List.cons_ne_nil first rest
  refine ⟨⟨first, rest, begins, dark first (begins ▸ List.mem_cons_self)⟩, ?_⟩
  exact ⟨cs.dropLast, cs.getLast nonempty, (List.dropLast_append_getLast nonempty).symm,
    dark _ (List.getLast_mem nonempty)⟩

/-- A bracket at the end closes the first one. -/
theorem enclosed?_eq_some : enclosed? opening cs = some inner ↔ cs = opening ++ inner ++ [']'] := by
  rw [enclosed?]
  constructor
  · intro h
    split at h
    · next bracketed =>
      rw [Bool.and_eq_true, List.isPrefixOf_iff_prefix, beq_iff_eq] at bracketed
      obtain ⟨⟨rest, rfl⟩, last⟩ := bracketed
      rw [List.drop_left] at h last
      cases h
      rw [List.append_assoc, List.dropLast_append_getLast? _ last]
    · cases h
  · rintro rfl
    rw [List.append_assoc]
    simp

/-- A word without brackets, or the name of a class, spells the type for which it is read. -/
theorem spells_of_plain? (h : plain? cs = some type) : type.Spells cs := by
  unfold plain? at h
  split at h
  · next same => cases h; exact same ▸ .text
  split at h
  · next same => cases h; exact same ▸ .number
  split at h
  · next same => cases h; exact same ▸ .bool
  split at h
  · next same => cases h; exact same ▸ .image
  split at h <;> cases h
  next named =>
    have spelled : (record (String.ofList cs)).Spells (String.ofList cs).toList :=
      .record (String.toList_ofList.symm ▸ isClassName_iff.1 named)
    rwa [String.toList_ofList] at spelled

/-- Reading follows the brackets of the text, from the outside in. -/
theorem exists_spells_of_ofChars (read : ofChars raw = .ok type) :
    ∃ left core right, Blanks left ∧ type.Spells core ∧ Blanks right ∧
      raw = left ++ core ++ right := by
  have around : ∀ {type : FieldType} {cs : List Char}, type.Spells (trim cs) →
      ∃ left core right, Blanks left ∧ type.Spells core ∧ Blanks right ∧
        cs = left ++ core ++ right := by
    intro type cs spells
    obtain ⟨left, right, before, after, parts⟩ := exists_padding cs
    exact ⟨left, trim cs, right, before, spells, after, parts⟩
  fun_induction ofChars raw generalizing type with
  | case1 raw inner bracketed _ ih =>
      obtain ⟨item, reads, rfl⟩ := except_map_eq_ok.1 read
      obtain ⟨left, core, right, before, spells, after, rfl⟩ := ih reads
      refine around ?_
      rw [enclosed?_eq_some.1 bracketed]
      exact .list before spells after
  | case2 raw _ inner bracketed _ ih =>
      obtain ⟨value, reads, rfl⟩ := except_map_eq_ok.1 read
      obtain ⟨left, core, right, before, spells, after, rfl⟩ := ih reads
      refine around ?_
      rw [enclosed?_eq_some.1 bracketed]
      exact .optional before spells after
  | case3 raw _ _ plain found =>
      cases read
      exact around (spells_of_plain? found)
  | case4 => cases read

theorem Spells.tight (spells : type.Spells cs) : Tight cs := by
  cases spells with
  | text => exact ⟨⟨'t', _, rfl, by decide⟩, "tex".toList, 't', rfl, by decide⟩
  | number => exact ⟨⟨'n', _, rfl, by decide⟩, "numbe".toList, 'r', rfl, by decide⟩
  | bool => exact ⟨⟨'b', _, rfl, by decide⟩, "boo".toList, 'l', rfl, by decide⟩
  | image => exact ⟨⟨'i', _, rfl, by decide⟩, "imag".toList, 'e', rfl, by decide⟩
  | list => exact ⟨⟨'l', _, rfl, by decide⟩, _, ']', rfl, by decide⟩
  | optional => exact ⟨⟨'o', _, rfl, by decide⟩, _, ']', rfl, by decide⟩
  | record named => exact named.tight

theorem ofChars_list (bracketed : trim raw = "list[".toList ++ inner ++ [']']) :
    ofChars raw = (ofChars inner).map list := by
  have found := enclosed?_eq_some.2 bracketed
  rw [ofChars]
  split
  · next found' => cases found.symm.trans found'; rfl
  · next none => cases found.symm.trans none

theorem ofChars_optional (bracketed : trim raw = "optional[".toList ++ inner ++ [']']) :
    ofChars raw = (ofChars inner).map optional := by
  have other : enclosed? "list[".toList (trim raw) = none := by
    rw [bracketed]
    rfl
  have found := enclosed?_eq_some.2 bracketed
  rw [ofChars]
  split
  · next found' => cases other.symm.trans found'
  · split
    · next found' => cases found.symm.trans found'; rfl
    · next none => cases found.symm.trans none

theorem ofChars_plain (same : trim raw = cs) (notList : enclosed? "list[".toList cs = none)
    (notOptional : enclosed? "optional[".toList cs = none) (plain : plain? cs = some type) :
    ofChars raw = .ok type := by
  subst same
  rw [ofChars]
  split
  · next found => cases notList.symm.trans found
  · split
    · next found => cases notOptional.symm.trans found
    · rw [plain]

/-- The words of the grammar begin with small letters, and the name of a class does not. -/
theorem IsClassName.not_prefix {word : List Char} (named : IsClassName cs)
    (small : ∃ c tail, word = c :: tail ∧ c.isUpper = false) : ¬ word <+: cs := by
  obtain ⟨first, rest, rfl, capital, -⟩ := named
  obtain ⟨c, tail, rfl, small⟩ := small
  rintro ⟨more, equal⟩
  obtain ⟨rfl, -⟩ := List.cons.inj equal
  exact Bool.false_ne_true (small.symm.trans capital)

theorem ofChars_record {className : String} (named : IsClassName className.toList)
    (same : trim raw = className.toList) : ofChars raw = .ok (record className) := by
  have apart : ∀ opening : List Char, (∃ c tail, opening = c :: tail ∧ c.isUpper = false) →
      enclosed? opening className.toList = none := by
    intro opening small
    rw [Option.eq_none_iff_forall_not_mem]
    intro inner found
    refine named.not_prefix small ?_
    rw [enclosed?_eq_some.1 found, List.append_assoc]
    exact List.prefix_append _ _
  have other : ∀ word : List Char, (∃ c tail, word = c :: tail ∧ c.isUpper = false) →
      className.toList ≠ word :=
    fun word small equal => named.not_prefix small (equal ▸ List.prefix_rfl)
  refine ofChars_plain same (apart _ ⟨'l', _, rfl, by decide⟩) (apart _ ⟨'o', _, rfl, by decide⟩) ?_
  have text : className.toList ≠ "text".toList := other _ ⟨'t', _, rfl, by decide⟩
  have number : className.toList ≠ "number".toList := other _ ⟨'n', _, rfl, by decide⟩
  have bool : className.toList ≠ "bool".toList := other _ ⟨'b', _, rfl, by decide⟩
  have image : className.toList ≠ "image".toList := other _ ⟨'i', _, rfl, by decide⟩
  rw [plain?, if_neg text, if_neg number, if_neg bool, if_neg image,
    if_pos (isClassName_iff.2 named), String.ofList_toList]

/-- What spells a type is read as that type, also with blanks around it. The induction is on the
spelling, and the blanks that stand around it are those just inside the brackets further out. -/
theorem Spells.ofChars_eq (spells : type.Spells cs) {left right : List Char}
    (before : Blanks left) (after : Blanks right) :
    ofChars (left ++ cs ++ right) = .ok type := by
  have trimmed := trim_padded before spells.tight after
  induction spells generalizing left right with
  | text => exact ofChars_plain trimmed rfl rfl rfl
  | number => exact ofChars_plain trimmed rfl rfl rfl
  | bool => exact ofChars_plain trimmed rfl rfl rfl
  | image => exact ofChars_plain trimmed rfl rfl rfl
  | list inside spells outside ih =>
      have reads := ih inside outside (trim_padded inside spells.tight outside)
      rw [ofChars_list trimmed, reads]
      rfl
  | optional inside spells outside ih =>
      have reads := ih inside outside (trim_padded inside spells.tight outside)
      rw [ofChars_optional trimmed, reads]
      rfl
  | record named => exact ofChars_record named trimmed

theorem ofText_eq_ok {text : String} : ofText text = .ok type ↔ type.SpelledBy text := by
  constructor
  · exact exists_spells_of_ofChars
  · rintro ⟨left, core, right, before, spells, after, parts⟩
    rw [ofText, parts]
    exact spells.ofChars_eq before after

/-- The written form has no blanks in it. -/
theorem Named.spells_chars (named : type.Named) : type.Spells type.chars := by
  induction type with
  | text => exact .text
  | number => exact .number
  | bool => exact .bool
  | image => exact .image
  | list item ih =>
      have spells := Spells.list blanks_nil (ih named) blanks_nil
      rwa [List.nil_append, List.append_nil] at spells
  | optional value ih =>
      have spells := Spells.optional blanks_nil (ih named) blanks_nil
      rwa [List.nil_append, List.append_nil] at spells
  | record className => exact .record named

theorem Named.spelledBy_written (named : type.Named) : type.SpelledBy type.written := by
  refine ⟨[], type.chars, [], blanks_nil, named.spells_chars, blanks_nil, ?_⟩
  rw [written, String.toList_ofList, List.nil_append, List.append_nil]

/-- Every text is read as the type that it spells, and no other text can be read. What is written
for a type is read as that type, if its records have the names of classes. -/
theorem read_iff_spelled :
    (∀ text type, ofText text = .ok type ↔ type.SpelledBy text) ∧
      ∀ type, type.Named → ofText type.written = .ok type :=
  ⟨fun _ _ => ofText_eq_ok, fun _ named => ofText_eq_ok.2 named.spelledBy_written⟩

/-- A list of invoices that may be missing is read back, and so it is with blanks in between. -/
theorem invoices_read :
    (list (optional (record "Invoice"))).Named ∧
      ofText (list (optional (record "Invoice"))).written =
        .ok (list (optional (record "Invoice"))) ∧
      ofText " list[ optional[Invoice] ] " = .ok (list (optional (record "Invoice"))) := by
  have invoice : IsClassName "Invoice".toList := isClassName_iff.1 (by decide)
  have blank : Blanks [' '] := by
    intro c member
    obtain rfl := List.mem_singleton.1 member
    decide
  have inner : (optional (record "Invoice")).Spells "optional[Invoice]".toList :=
    .optional blanks_nil (.record invoice) blanks_nil
  have outer : (list (optional (record "Invoice"))).Spells "list[ optional[Invoice] ]".toList :=
    .list blank inner blank
  exact ⟨invoice, read_iff_spelled.2 _ invoice,
    (read_iff_spelled.1 _ _).2 ⟨[' '], _, [' '], blank, outer, blank, rfl⟩⟩

end FieldType

end Conduit
