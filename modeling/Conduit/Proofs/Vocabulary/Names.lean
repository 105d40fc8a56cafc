import Mathlib.Data.List.Basic
import Mathlib.Data.List.TakeWhile
import Conduit.Vocabulary

/-!
# Full names and references

A concept is kept under one text, its domain and its code with a point between them. No code has a
point in it, and so the text tells both of them: what stands behind the last point is the code.

Reading a reference undoes this. It accepts just the texts that are written for a well-formed
reference, with blanks around them or without.
-/

namespace Conduit

theorem not_mem_of_isConceptCode {code : String} (isCode : isConceptCode code = true) :
    '.' ∉ code.toList := by
  intro member
  rw [isConceptCode] at isCode
  split at isCode
  · cases isCode
  · next first rest chars =>
    rw [Bool.and_eq_true, List.all_eq_true] at isCode
    rw [chars, List.mem_cons] at member
    rcases member with rfl | inside
    · exact absurd isCode.1 (by decide)
    · exact absurd (isCode.2 '.' inside) (by decide)

namespace Reference

theorem ne_point_of_mem_reverse {cs : List Char} (plain : '.' ∉ cs) :
    ∀ c ∈ cs.reverse, (c != '.') = true := by
  intro c member
  rw [bne_iff_ne]
  rintro rfl
  exact plain (List.mem_reverse.1 member)

theorem splitAtLastPoint_of_not_mem {cs : List Char} (plain : '.' ∉ cs) :
    splitAtLastPoint cs = (none, cs) := by
  have behind := ne_point_of_mem_reverse plain
  have taken : cs.reverse.takeWhile (· != '.') = cs.reverse := List.takeWhile_eq_self_iff.2 behind
  have dropped : cs.reverse.dropWhile (· != '.') = [] := List.dropWhile_eq_nil_iff.2 behind
  rw [splitAtLastPoint, taken, dropped]
  simp

theorem splitAtLastPoint_append {domain code : List Char} (plain : '.' ∉ code) :
    splitAtLastPoint (domain ++ '.' :: code) = (some domain, code) := by
  have back : (domain ++ '.' :: code).reverse = code.reverse ++ '.' :: domain.reverse := by simp
  have behind := ne_point_of_mem_reverse plain
  rw [splitAtLastPoint, back, List.takeWhile_append_of_pos behind,
    List.dropWhile_append_of_pos behind]
  simp

/-- A text with a point in it has a last one. -/
theorem exists_lastPoint {cs : List Char} (pointed : '.' ∈ cs) :
    ∃ domain code, cs = domain ++ '.' :: code ∧ '.' ∉ code := by
  obtain ⟨code, domain, back, plain⟩ := List.eq_append_cons_of_mem (List.mem_reverse.2 pointed)
  refine ⟨domain.reverse, code.reverse, ?_, fun member => plain (List.mem_reverse.1 member)⟩
  rw [← List.reverse_reverse cs, back]
  simp

end Reference

namespace Concept

variable {domain domain' code code' : String}

theorem toList_qualify (domain code : String) :
    (qualify domain code).toList = domain.toList ++ '.' :: code.toList := by
  simp [qualify, toString]

/-- A full name tells the domain and the code, whatever the domain is. -/
theorem qualify_inj (plain : '.' ∉ code.toList) (plain' : '.' ∉ code'.toList)
    (same : qualify domain code = qualify domain' code') : domain = domain' ∧ code = code' := by
  have split := congrArg (Reference.splitAtLastPoint ·.toList) same
  simp only [toList_qualify, Reference.splitAtLastPoint_append plain,
    Reference.splitAtLastPoint_append plain', Prod.mk.injEq, Option.some.injEq,
    String.toList_inj] at split
  exact split

end Concept

namespace Reference

variable {reference : Reference} {raw : String}

/-- The domain, if there is one, and the code are what such names have to be. -/
structure WellFormed (reference : Reference) : Prop where
  domain : ∀ domain ∈ reference.domain, isDomain domain = true
  code : isConceptCode reference.code = true

/-- What is read is a well-formed reference, and apart from blanks around it the text is the one
that is written for it. Nothing else can be read. -/
theorem ofText_eq_ok : ofText raw = .ok reference ↔
    reference.WellFormed ∧ Text.trimmed raw = reference.text := by
  rw [ofText, Text.trimmed]
  generalize Text.trim raw.toList = cs
  constructor
  · intro read
    by_cases pointed : '.' ∈ cs
    · obtain ⟨domain, code, rfl, plain⟩ := exists_lastPoint pointed
      simp only [splitAtLastPoint_append plain, Option.map_some] at read
      split at read
      · next isDomain =>
        split at read <;> cases read
        next isCode =>
          refine ⟨⟨?_, isCode⟩, ?_⟩
          · rintro _ ⟨⟩
            exact isDomain
          · rw [← String.toList_inj]
            simp [text, toString]
      · cases read
    · simp only [splitAtLastPoint_of_not_mem pointed, Option.map_none] at read
      split at read <;> cases read
      next isCode => exact ⟨⟨nofun, isCode⟩, rfl⟩
  · rintro ⟨⟨inDomain, isCode⟩, written⟩
    obtain ⟨domain, code⟩ := reference
    have plain := not_mem_of_isConceptCode isCode
    obtain rfl : cs = (text ⟨domain, code⟩).toList := by rw [← written, String.toList_ofList]
    cases domain with
    | none => simp [text, splitAtLastPoint_of_not_mem plain, isCode]
    | some domain =>
        have inDomain := inDomain domain rfl
        have parts : (text ⟨some domain, code⟩).toList = domain.toList ++ '.' :: code.toList :=
          Concept.toList_qualify domain code
        simp [parts, splitAtLastPoint_append plain, inDomain, isCode]

end Reference

end Conduit
