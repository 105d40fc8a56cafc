import Conduit.Content.Codec
import Conduit.Proofs.Decimal.FiniteDoubles
import Conduit.Proofs.Memory.View

/-!
# Content is read back as it was written

What is written for a content are its fields and its kind. A field is found by its name wherever it
stands, and so the kind that has been put among the fields does not disturb the reading of them.
What is left out when it is missing is read as missing, and so is what is written as null.

A number that is not finite cannot be written. It cannot be read either, for the numbers of a JSON
value are integers of 64 bits and finite doubles.
-/

namespace Conduit

namespace Json

mutual

/-- Are the numbers of the value, at any depth, integers of 64 bits and finite doubles? There are no
others in a JSON value that has been read. -/
def representable : Json → Bool
  | integer value => -2 ^ 63 ≤ value && value < 2 ^ 64
  | double value => value.isFinite
  | array items => representableItems items
  | object fields => representableFields fields
  | _ => true

/-- Are all items representable? -/
def representableItems : List Json → Bool
  | [] => true
  | item :: items => representable item && representableItems items

/-- Are the values of all fields representable? -/
def representableFields : List (String × Json) → Bool
  | [] => true
  | (_, value) :: fields => representable value && representableFields fields

end

variable {value : Json}

theorem representable_of_mem_items {items : List Json}
    (representable : representableItems items = true) :
    ∀ item ∈ items, item.representable = true := by
  induction items with
  | nil => exact List.forall_mem_nil _
  | cons item items ih =>
      rw [representableItems, Bool.and_eq_true] at representable
      exact List.forall_mem_cons.2 ⟨representable.1, ih representable.2⟩

theorem representable_of_mem_fields {fields : List (String × Json)}
    (representable : representableFields fields = true) :
    ∀ field ∈ fields, field.2.representable = true := by
  induction fields with
  | nil => exact List.forall_mem_nil _
  | cons field fields ih =>
      rw [representableFields, Bool.and_eq_true] at representable
      exact List.forall_mem_cons.2 ⟨representable.1, ih representable.2⟩

/-- The fields of a record are representable, whether it is an object or an array. -/
theorem representable_of_record? {names : List String} {record : Record Json}
    (representable : value.representable = true) (found : value.record? names = some record) :
    ∀ field ∈ record, field.2.representable = true := by
  unfold record? at found
  split at found
  · cases found
    exact representable_of_mem_fields representable
  · next items =>
    rw [Record.ofItems?] at found
    split at found <;> cases found
    intro field member
    exact representable_of_mem_items representable field.2 (List.of_mem_zip member).2
  · cases found

theorem isFinite_of_double? {number : Float} (representable : value.representable = true)
    (read : value.double? = some number) : number.isFinite = true := by
  unfold double? at read
  split at read <;> cases read
  · rw [Json.representable, Bool.and_eq_true, decide_eq_true_iff, decide_eq_true_iff]
      at representable
    exact Doubles.isFinite_ofInt (by omega) representable.2
  · exact representable

end Json

namespace Content

mutual

/-- Are all numbers in the content finite? -/
def finite : Content → Bool
  | number value => value.isFinite
  | list items => finiteItems items
  | _ => true

/-- Are all numbers in the contents finite? -/
def finiteItems : List Content → Bool
  | [] => true
  | item :: items => finite item && finiteItems items

end

theorem Kind.ofJson?_name (isItem : Bool) (kind : Kind) :
    Kind.ofJson? isItem (.string kind.name) = some kind := by
  cases kind <;> rfl

theorem itemsOf?_eq (fields : List (String × Json)) :
    itemsOf? fields = match fields.lookup "items" with
      | some (.array items) => readAll? items
      | _ => none := by
  induction fields with
  | nil => rfl
  | cons field fields ih =>
      obtain ⟨key, value⟩ := field
      rw [OrderedMap.lookup_cons_eq_ite]
      by_cases here : "items" = key
      · subst here
        cases value <;> simp [itemsOf?]
      · have elsewhere : key ≠ "items" := Ne.symm here
        cases value <;> simp [itemsOf?, here, elsewhere, ih]

/-- The fields of a record are read past its kind. -/
theorem ofRecord?_tagged (kind other : Kind) (fields : List (String × Json))
    (items : Option (List Content)) :
    ofRecord? kind (tagged other fields) items = ofRecord? kind (.object fields) items := by
  cases kind <;>
    simp [ofRecord?, tagged, textOf?, soleOf?, imageOf?, bodyOf?, pageOf?, htmlOf?, structuredOf?,
      Json.record?, Record.required, Record.withDefault, Json.lookup_insertField]

theorem read?_tagged (isItem : Bool) (kind : Kind) (fields : List (String × Json)) :
    read? isItem (tagged kind fields) = ofRecord? kind (.object fields) (itemsOf? fields) := by
  have kept : itemsOf? (Json.insertField "kind" (.string kind.name) fields) = itemsOf? fields := by
    rw [itemsOf?_eq, itemsOf?_eq, Json.lookup_insertField, if_neg (by decide)]
  rw [← ofRecord?_tagged kind kind, ← kept, tagged, read?, Json.lookup_insertField, if_pos rfl]
  rw [Option.bind_some, Kind.ofJson?_name]
  rfl

theorem imageOf?_imageJson (picture : Image) : imageOf? (imageJson picture) = some picture := by
  obtain ⟨url, _ | caption⟩ := picture <;> rfl

theorem items?_imageJson (pictures : List Image) :
    Json.items? imageOf? (.array (pictures.map imageJson)) = some pictures := by
  rw [Json.items?, List.mapM_map]
  induction pictures with
  | nil => rfl
  | cons picture pictures ih =>
      rw [List.mapM_cons, ih, Function.comp_apply, imageOf?_imageJson]
      rfl

theorem bodyOf?_bodyJson (body : TextAndImages) : bodyOf? (bodyJson body) = some body := by
  obtain ⟨text, images⟩ := body
  have pictures := items?_imageJson images
  cases text <;>
    simp [bodyOf?, bodyJson, bodyFields, Json.record?, Record.withDefault, Json.nullable?,
      OrderedMap.lookup_cons_eq_ite, pictures, textOf?, Record.required, Json.string?]

theorem pageOf?_pageFields (body : TextAndImages) (view : Option Image) :
    pageOf? (.object (pageFields body view)) = some (page body view) := by
  have read := bodyOf?_bodyJson body
  have seen : ∀ picture, Json.nullable? imageOf? (imageJson picture) = some (some picture) :=
    fun picture => congrArg (Option.map some) (imageOf?_imageJson picture)
  cases view <;>
    simp [pageOf?, pageFields, Json.record?, Record.required, Record.withDefault,
      OrderedMap.lookup_cons_eq_ite, read, seen]

mutual

/-- Reading a content that has been written gives it back. -/
theorem read?_toJson (isItem : Bool) (content : Content) (finite : content.finite = true) :
    read? isItem content.toJson = some content := by
  cases content with
  | text words => rw [toJson, read?_tagged]; rfl
  | number value =>
      have written : numberJson value = .double value := if_pos finite
      rw [toJson, read?_tagged, written]
      rfl
  | image picture =>
      rw [toJson, read?_tagged, ofRecord?]
      exact congrArg (Option.map image) (imageOf?_imageJson picture)
  | pdf url => rw [toJson, read?_tagged]; rfl
  | textAndImages value =>
      rw [toJson, read?_tagged, ofRecord?]
      exact congrArg (Option.map textAndImages) (bodyOf?_bodyJson value)
  | page body view => rw [toJson, read?_tagged]; exact pageOf?_pageFields body view
  | html inner cssClass => rw [toJson, read?_tagged]; rfl
  | structured className value => rw [toJson, read?_tagged]; rfl
  | list items =>
      rw [toJson, read?_tagged, itemsOf?, if_pos rfl, readAll?_itemsJson items finite]
      rfl

/-- Reading contents that have been written gives them back. -/
theorem readAll?_itemsJson (items : List Content) (finite : finiteItems items = true) :
    readAll? (itemsJson items) = some items := by
  cases items with
  | nil => rfl
  | cons item items =>
      rw [finiteItems, Bool.and_eq_true] at finite
      rw [itemsJson, readAll?, read?_toJson true item finite.1, readAll?_itemsJson items finite.2]
      rfl

end

section Bounded

variable {value : Json} {content : Content}

/-- Numbers can be found only in a number, and in the items of a list. -/
theorem finite_of_ofRecord? {kind : Kind} {items : Option (List Content)}
    (representable : value.representable = true)
    (each : ∀ contents, items = some contents → finiteItems contents = true)
    (read : ofRecord? kind value items = some content) : content.finite = true := by
  cases kind with
  | number =>
      obtain ⟨number, sole, rfl⟩ := Option.map_eq_some_iff.1 read
      obtain ⟨record, found, sole⟩ := Option.bind_eq_some_iff.1 sole
      obtain ⟨field, there, read⟩ := Option.bind_eq_some_iff.1 sole
      obtain ⟨before, after, rfl, -⟩ := List.lookup_eq_some_iff.1 there
      have member : ("number", field) ∈ before ++ ("number", field) :: after :=
        List.mem_append_right before List.mem_cons_self
      have bounded := Json.representable_of_record? representable found _ member
      exact Json.isFinite_of_double? bounded read
  | list =>
      obtain ⟨contents, there, rfl⟩ := Option.map_eq_some_iff.1 read
      exact each contents there
  | page | html | structured =>
      obtain ⟨record, -, read⟩ := Option.bind_eq_some_iff.1 read
      obtain ⟨first, -, read⟩ := Option.bind_eq_some_iff.1 read
      obtain ⟨second, -, read⟩ := Option.bind_eq_some_iff.1 read
      cases read
      rfl
  | _ =>
      obtain ⟨_, -, rfl⟩ := Option.map_eq_some_iff.1 read
      rfl

mutual

/-- What has been read from a JSON value has finite numbers. -/
theorem finite_of_read? (isItem : Bool) (value : Json) (representable : value.representable = true)
    (content : Content) (read : read? isItem value = some content) : content.finite = true := by
  cases value with
  | object fields =>
      rw [read?] at read
      obtain ⟨kind, -, read⟩ := Option.bind_eq_some_iff.1 read
      exact finite_of_ofRecord? representable
        (fun contents found => finite_of_itemsOf? fields representable contents found) read
  | array values =>
      cases values with
      | nil => cases read
      | cons kind values =>
          rw [Json.representable, Json.representableItems, Bool.and_eq_true] at representable
          rw [read?] at read
          obtain ⟨kind, -, read⟩ := Option.bind_eq_some_iff.1 read
          have rest : (Json.array values).representable = true := representable.2
          exact finite_of_ofRecord? rest
            (fun contents found => finite_of_soleItems? values representable.2 contents found) read
  | _ => cases read

theorem finite_of_itemsOf? (fields : List (String × Json))
    (representable : Json.representableFields fields = true) (contents : List Content)
    (read : itemsOf? fields = some contents) : finiteItems contents = true := by
  cases fields with
  | nil => cases read
  | cons field fields =>
      obtain ⟨key, value⟩ := field
      rw [Json.representableFields, Bool.and_eq_true] at representable
      cases value with
      | array items =>
          rw [itemsOf?] at read
          split at read
          · exact finite_of_readAll? items representable.1 contents read
          · exact finite_of_itemsOf? fields representable.2 contents read
      | _ =>
          simp only [itemsOf?] at read
          split at read
          · cases read
          · exact finite_of_itemsOf? fields representable.2 contents read

theorem finite_of_soleItems? (values : List Json)
    (representable : Json.representableItems values = true) (contents : List Content)
    (read : soleItems? values = some contents) : finiteItems contents = true := by
  cases values with
  | nil => cases read
  | cons value others =>
      rw [Json.representableItems, Bool.and_eq_true] at representable
      cases value with
      | array items =>
          cases others with
          | nil => exact finite_of_readAll? items representable.1 contents read
          | cons _ _ => cases read
      | _ => cases read

theorem finite_of_readAll? (items : List Json)
    (representable : Json.representableItems items = true) (contents : List Content)
    (read : readAll? items = some contents) : finiteItems contents = true := by
  cases items with
  | nil =>
      cases read
      rfl
  | cons item items =>
      rw [Json.representableItems, Bool.and_eq_true] at representable
      rw [readAll?] at read
      obtain ⟨content, first, read⟩ := Option.bind_eq_some_iff.1 read
      obtain ⟨others, rest, read⟩ := Option.bind_eq_some_iff.1 read
      cases read
      rw [finiteItems, finite_of_read? true item representable.1 content first,
        finite_of_readAll? items representable.2 others rest]
      rfl

end

end Bounded

/-- A content with finite numbers that has been written is read back as it was. So is whatever has
been read from a JSON value, however that was written. -/
theorem reads_back :
    (∀ content : Content, content.finite = true → ofJson? content.toJson = some content) ∧
    ∀ (value : Json) (content : Content), value.representable = true →
      ofJson? value = some content → ofJson? content.toJson = some content := by
  constructor
  · intro content finite
    exact read?_toJson false content finite
  · intro value content representable read
    exact read?_toJson false content (finite_of_read? false value representable content read)

end Content

namespace Sample

/-- A half, a page with a picture but neither text nor view, and a record, in nested lists. -/
def dossier : Content :=
  .list [.list [.number 0.5, .page ⟨none, [⟨"map.png", some "A map"⟩, ⟨"key.png", none⟩]⟩ none],
    .structured "Invoice" (.object [("kind", .null), ("total", .array [.integer 3, .double 0.5])])]

/-- A list of the number three, written without names. -/
def tally : Json :=
  .array [.string "list", .array [.array [.integer 1, .integer 3]]]

/-- The dossier is read back, and so is the number of the tally, which is no integer any more. -/
theorem dossier_reads_back :
    dossier.finite = true ∧ Content.ofJson? dossier.toJson = some dossier ∧
      tally.representable = true ∧
      Content.ofJson? tally = some (.list [.number (Float.ofInt 3)]) ∧
      Content.ofJson? (Content.list [.number (Float.ofInt 3)]).toJson =
        some (.list [.number (Float.ofInt 3)]) := by
  have finite : dossier.finite = true := by decide +kernel
  have representable : tally.representable = true := by decide +kernel
  have read : Content.ofJson? tally = some (.list [.number (Float.ofInt 3)]) := rfl
  obtain ⟨written, again⟩ := Content.reads_back
  exact ⟨finite, written dossier finite, representable, read, again tally _ representable read⟩

end Sample

end Conduit
