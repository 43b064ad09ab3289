import Mathlib.Data.List.Basic
import Mathlib.Data.List.Induction
import SwaggerService.Text.Lowercase

/-! # Lowercase forms

What the lowercase form of a text says about the text. Every character has a form that is not empty. Beyond
ASCII only the Kelvin sign has one that ends in an ASCII character, so an ASCII end of a lowercase text,
without a `k`, stands for as many ASCII characters at the end of the text itself. This does not depend on the
neighbours of a capital sigma, because neither of its two forms is ASCII. -/

namespace SwaggerService.Text

/-! ## Forms of a character -/

theorem lowerExpansions_ne_nil : ∀ expansion ∈ lowerExpansions, expansion.2 ≠ [] := by decide

/-- The expansions end beyond ASCII. -/
theorem lowerExpansions_beyond : ∀ expansion ∈ lowerExpansions, ∀ code ∈ expansion.2.getLast?,
    0x80 ≤ code ∧ code.isValidChar := by decide

/-- The shifts lead from characters to characters beyond ASCII, except for the one of the Kelvin sign. -/
theorem lowerShifts_beyond : ∀ shift ∈ lowerShifts,
    0x80 ≤ shift.run.first + shift.offset ∧ shift.run.last + shift.offset < 0xd800 ∨
    0xe000 ≤ shift.run.first + shift.offset ∧ shift.run.last + shift.offset < 0x110000 ∨
    shift = ⟨⟨0x212a, 0x212a, 1⟩, -8383⟩ := by decide +kernel

/-- Where the form of a character beyond ASCII comes from. -/
theorem caseForm_cases (shifts : List CaseShift) (expansions : List (Nat × List Nat)) (c : Char) :
    (∃ expansion ∈ expansions, caseForm shifts expansions c = expansion.2.map Char.ofNat) ∨
    (∃ shift ∈ shifts, shift.run.contains c.toNat ∧
      caseForm shifts expansions c = [Char.ofNat (c.toNat + shift.offset).toNat]) ∨
    caseForm shifts expansions c = [c] := by
  unfold caseForm
  split
  · next codes h =>
    obtain ⟨front, back, htable, _⟩ := List.lookup_eq_some_iff.mp h
    exact .inl ⟨(c.toNat, codes), by simp [htable], rfl⟩
  · split
    · next shift h =>
      have hrun := List.find?_some h
      exact .inr (.inl ⟨shift, List.mem_of_find?_eq_some h, hrun, rfl⟩)
    · exact .inr (.inr rfl)

/-- Every character has a lowercase form. -/
theorem lowercase_ne_nil (c : Char) : lowercase c ≠ [] := by
  unfold lowercase
  split
  · exact List.cons_ne_nil _ _
  · obtain ⟨expansion, hmem, h⟩ | ⟨_, _, _, h⟩ | h := caseForm_cases lowerShifts lowerExpansions c
    · rw [h]
      simpa using lowerExpansions_ne_nil expansion hmem
    · rw [h]
      exact List.cons_ne_nil _ _
    · rw [h]
      exact List.cons_ne_nil _ _

theorem not_isAscii_ofNat {code : Nat} (hbeyond : 0x80 ≤ code) (hvalid : code.isValidChar) :
    ¬ isAscii (Char.ofNat code) := by
  have hcode : (Char.ofNat code).toNat = code := by
    rw [Char.ofNat, dif_pos hvalid]
    rfl
  simp only [isAscii, hcode, decide_eq_true_eq]
  omega

theorem singleton_eq_concat {x y : Char} {front : List Char} (h : [y] = front ++ [x]) : front = [] ∧ y = x := by
  cases front with
  | nil => exact ⟨rfl, List.singleton_inj.mp h⟩
  | cons z front => exact absurd (congrArg List.length h) (by simp)

/-- Beyond ASCII only the Kelvin sign has a lowercase form that ends in an ASCII character. -/
theorem ascii_of_lowercase {c x : Char} {front : List Char} (h : lowercase c = front ++ [x])
    (hx : isAscii x) : isAscii c ∧ front = [] ∧ c.toLower = x ∨ x = 'k' := by
  unfold lowercase at h
  split at h
  · next hc =>
    obtain ⟨hfront, hlow⟩ := singleton_eq_concat h
    exact .inl ⟨hc, hfront, hlow⟩
  · next hc =>
    obtain ⟨expansion, hmem, hform⟩ | ⟨shift, hmem, hrun, hform⟩ | hform :=
      caseForm_cases lowerShifts lowerExpansions c
    · obtain ⟨code, hcode, hlast⟩ : ∃ code ∈ expansion.2.getLast?, Char.ofNat code = x := by
        have hlast := congrArg List.getLast? (hform.symm.trans h)
        simpa using hlast
      obtain ⟨hbeyond, hvalid⟩ := lowerExpansions_beyond expansion hmem code hcode
      exact absurd (hlast ▸ hx) (not_isAscii_ofNat hbeyond hvalid)
    -- The shift keeps the order, so the ends of its run bound the shifted code point.
    · obtain ⟨_, rfl⟩ := singleton_eq_concat (hform.symm.trans h)
      simp only [CodeRun.contains, Bool.and_eq_true, decide_eq_true_eq] at hrun
      obtain hshift | hshift | rfl := lowerShifts_beyond shift hmem
      · exact absurd hx (not_isAscii_ofNat (by omega) (.inl (by omega)))
      · exact absurd hx (not_isAscii_ofNat (by omega) (.inr (by omega)))
      · have hkelvin : c.toNat = 0x212a := by
          simp only at hrun
          omega
        exact .inr (by rw [hkelvin]; rfl)
    · obtain ⟨_, rfl⟩ := singleton_eq_concat (hform.symm.trans h)
      exact absurd hx hc

/-- An ASCII character that is a lowercase form of ASCII characters only. -/
def isPlain (x : Char) : Bool := isAscii x && x != 'k'

/-! ## Forms of a text -/

/-- A lowercase form that a character has somewhere. -/
def IsForm (c : Char) (form : List Char) : Prop := form = lowercase c ∨ c = 'Σ' ∧ form = ['ς']

theorem lowercaseBetween_isForm (before : List Char) (c : Char) (after : List Char) :
    IsForm c (lowercaseBetween before c after) := by
  unfold lowercaseBetween
  split
  · next h =>
    simp only [Bool.and_eq_true, beq_iff_eq] at h
    exact .inr ⟨h.1.1, rfl⟩
  · exact .inl rfl

theorem IsForm.ne_nil {c : Char} {form : List Char} (h : IsForm c form) : form ≠ [] := by
  rcases h with rfl | ⟨_, rfl⟩
  · exact lowercase_ne_nil c
  · exact List.cons_ne_nil _ _

theorem IsForm.ascii {c x : Char} {front : List Char} (h : IsForm c (front ++ [x])) (hx : isPlain x) :
    isAscii c ∧ front = [] ∧ c.toLower = x := by
  rcases h with h | ⟨_, h⟩
  · obtain ⟨hascii, hk⟩ := Bool.and_eq_true_iff.mp hx
    exact (ascii_of_lowercase h.symm hascii).resolve_right (by simpa using hk)
  · obtain ⟨_, rfl⟩ := singleton_eq_concat h.symm
    exact absurd hx (by decide)

/-- Lowercase forms of the characters of a text, joined in the order of the text. -/
inductive Lowered : List Char → List Char → Prop
  | nil : Lowered [] []
  | concat {cs lower : List Char} {c : Char} {form : List Char} (front : Lowered cs lower) (last : IsForm c form) :
      Lowered (cs ++ [c]) (lower ++ form)

/-- The characters that have been read are the ones that the next form may depend on. -/
theorem Lowered.lowercaseAfter {front lower : List Char} (h : Lowered front lower) (rest : List Char) :
    Lowered (front ++ rest) (lower ++ lowercaseAfter front.reverse rest) := by
  induction rest generalizing front lower with
  | nil => simpa [Text.lowercaseAfter] using h
  | cons c rest ih =>
    have hnext := ih (h.concat (lowercaseBetween_isForm front.reverse c rest))
    rw [List.reverse_append, List.append_assoc, List.append_assoc] at hnext
    exact hnext

theorem lowercaseText_lowered (cs : List Char) : Lowered cs (lowercaseText cs) := Lowered.nil.lowercaseAfter cs

example : String.ofList (lowercaseText "ΣΑΣ, ΑΣ'Α".toList) = "σας, ασ'α" := by decide +kernel

namespace Lowered

variable {cs lower front : List Char}

theorem eq_nil_iff (h : Lowered cs lower) : cs = [] ↔ lower = [] := by
  cases h with
  | nil => exact Iff.rfl
  | concat _ hform => simp [hform.ne_nil]

/-- The last character of a lowercase text, when it is plain, stands for the last one of the text. -/
theorem of_concat {x : Char} (h : Lowered cs (front ++ [x])) (hx : isPlain x) :
    ∃ init c, cs = init ++ [c] ∧ isAscii c ∧ c.toLower = x ∧ Lowered init front := by
  generalize hlower : front ++ [x] = lower at h
  cases h with
  | nil => exact absurd hlower (by simp)
  | @concat init earlier c form hinit hform =>
    -- No form is empty, so the last character is the last one of the last form.
    obtain ⟨formFront, y, rfl⟩ := (List.eq_nil_or_concat' form).resolve_left hform.ne_nil
    rw [← List.append_assoc] at hlower
    obtain ⟨hfront, hlast⟩ := List.append_inj' hlower rfl
    obtain rfl := List.singleton_inj.mp hlast
    obtain ⟨hc, rfl, hlow⟩ := hform.ascii hx
    rw [List.append_nil] at hfront
    exact ⟨init, c, rfl, hc, hlow, hfront ▸ hinit⟩

/-- A plain end of a lowercase text stands for an end of the text that differs from it in letter case only. -/
theorem of_append {ending : List Char} (h : Lowered cs (front ++ ending)) (hplain : ending.all isPlain) :
    ∃ init back, cs = init ++ back ∧ back.map Char.toLower = ending ∧ (∀ c ∈ back, isAscii c) ∧
      Lowered init front := by
  induction ending using List.reverseRecOn generalizing cs with
  | nil => exact ⟨cs, [], by simp, rfl, by simp, by simpa using h⟩
  | append_singleton ending x ih =>
    rw [← List.append_assoc] at h
    rw [List.all_append, Bool.and_eq_true_iff, List.all_cons, List.all_nil, Bool.and_true] at hplain
    obtain ⟨init, c, rfl, hc, hlow, hinit⟩ := h.of_concat hplain.2
    obtain ⟨init, back, rfl, hback, hascii, hfront⟩ := ih hinit hplain.1
    refine ⟨init, back ++ [c], by simp, by simp [hback, hlow], ?_, hfront⟩
    intro d hd
    rcases List.mem_append.mp hd with hd | hd
    · exact hascii d hd
    · exact List.mem_singleton.mp hd ▸ hc

end Lowered

end SwaggerService.Text
