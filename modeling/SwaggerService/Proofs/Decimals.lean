import Mathlib.Data.List.Induction
import SwaggerService.Number.Natural

/-! # Decimal forms

Which texts are read as a natural number: its decimal form, with any number of zeros in front of it and a
plus sign in front of these, as long as the number is below the bound. Nothing else is read, so a number
that is too big is not taken for a smaller one. -/

namespace SwaggerService

theorem digitsValue_eq (digits : List Char) : digitsValue digits = Nat.ofDigitChars 10 digits 0 := by
  have hstep : (fun (n : Nat) (c : Char) => n * 10 + (c.toNat - 48)) =
      fun n c => 10 * n + (c.toNat - '0'.toNat) := by
    funext n c
    rw [Nat.mul_comm]
    rfl
  rw [digitsValue, hstep, ← Nat.ofDigitChars_eq_foldl]

theorem digitsValue_toDigits (n : Nat) : digitsValue (Nat.toDigits 10 n) = n := by
  rw [digitsValue_eq, Nat.ofDigitChars_ten_toDigits]

theorem digitsValue_nil : digitsValue [] = 0 := rfl

theorem digitsValue_concat (digits : List Char) (d : Char) :
    digitsValue (digits ++ [d]) = 10 * digitsValue digits + (d.toNat - 48) := by
  rw [digitsValue, List.foldl_append, Nat.mul_comm]
  rfl

theorem digitsValue_zeros (zeros : Nat) (digits : List Char) :
    digitsValue (List.replicate zeros '0' ++ digits) = digitsValue digits := by
  induction zeros with
  | zero => rfl
  | succ zeros ih => exact ih

theorem toString_toList (n : Nat) : (toString n).toList = Nat.toDigits 10 n := by
  rw [Nat.toString_eq_ofList_toDigits, String.toList_ofList]

theorem isDigit_of_mem_toString {n : Nat} {c : Char} (hc : c ∈ (toString n).toList) : c.isDigit = true := by
  rw [toString_toList] at hc
  exact Nat.isDigit_of_mem_toDigits (by decide) (by decide) hc

/-- A digit is the decimal form of its value. -/
theorem toDigits_of_isDigit {d : Char} (h : d.isDigit = true) :
    d.toNat - 48 < 10 ∧ Nat.toDigits 10 (d.toNat - 48) = [d] := by
  have hbounds : 48 ≤ d.toNat ∧ d.toNat ≤ 57 := by
    simpa [Char.isDigit, UInt32.le_iff_toNat_le] using h
  have hsmall : d.toNat - 48 < 10 := by omega
  have hchar : Nat.digitChar (d.toNat - 48) = d := by
    refine Char.toNat_inj.mp ?_
    rw [Nat.toNat_digitChar_of_lt_ten hsmall]
    omega
  exact ⟨hsmall, by rw [Nat.toDigits_of_lt_base hsmall, hchar]⟩

/-- Digits are zeros and then the decimal form of their value. -/
theorem exists_zeros {digits : List Char} (hsome : digits ≠ []) (hdigits : ∀ d ∈ digits, d.isDigit = true) :
    ∃ zeros, digits = List.replicate zeros '0' ++ Nat.toDigits 10 (digitsValue digits) := by
  induction digits using List.reverseRecOn with
  | nil => exact absurd rfl hsome
  | append_singleton front d ih =>
    obtain ⟨hsmall, hlast⟩ := toDigits_of_isDigit (hdigits d (by simp))
    rw [digitsValue_concat]
    by_cases hfront : front = []
    · subst hfront
      refine ⟨0, ?_⟩
      rw [digitsValue_nil, Nat.mul_zero, Nat.zero_add, hlast]
      rfl
    · obtain ⟨zeros, hzeros⟩ := ih hfront fun c hc => hdigits c (List.mem_append_left _ hc)
      rcases Nat.eq_zero_or_pos (digitsValue front) with hzero | hpos
      · -- Then the front is nothing but zeros.
        refine ⟨zeros + 1, ?_⟩
        rw [hzero, Nat.toDigits_zero] at hzeros
        rw [hzero, Nat.mul_zero, Nat.zero_add, hlast, hzeros, List.replicate_succ']
      · refine ⟨zeros, ?_⟩
        rw [← Nat.toDigits_append_toDigits (by decide) hpos hsmall, hlast, ← List.append_assoc, ← hzeros]

/-- A text is the decimal form of a number, up to zeros in front of it and a plus sign in front of
these. -/
def WrittenAs (text : String) (n : Nat) : Prop :=
  ∃ sign zeros, (sign = [] ∨ sign = ['+']) ∧
    text.toList = sign ++ (List.replicate zeros '0' ++ (toString n).toList)

theorem zeros_toString (zeros n : Nat) :
    List.replicate zeros '0' ++ (toString n).toList ≠ [] ∧
      (∀ d ∈ List.replicate zeros '0' ++ (toString n).toList, d.isDigit = true) ∧
      digitsValue (List.replicate zeros '0' ++ (toString n).toList) = n := by
  refine ⟨?_, ?_, ?_⟩
  · rw [toString_toList]
    exact List.append_ne_nil_of_right_ne_nil _ Nat.toDigits_ne_nil
  · intro d hd
    rcases List.mem_append.mp hd with hd | hd
    · rw [List.eq_of_mem_replicate hd]
      rfl
    · exact isDigit_of_mem_toString hd
  · rw [digitsValue_zeros, toString_toList, digitsValue_toDigits]

/-- A text without the plus sign that it may begin with. -/
def unsigned (text : String) : List Char :=
  match text.toList with
  | '+' :: rest => rest
  | cs => cs

theorem exists_sign (text : String) :
    ∃ sign, (sign = [] ∨ sign = ['+']) ∧ text.toList = sign ++ unsigned text := by
  unfold unsigned
  split
  · next rest htext => exact ⟨['+'], .inr rfl, htext⟩
  · exact ⟨[], .inl rfl, rfl⟩

theorem unsigned_eq {text : String} {sign digits : List Char} (hsign : sign = [] ∨ sign = ['+'])
    (hdigits : ∀ d ∈ digits, d.isDigit = true) (htext : text.toList = sign ++ digits) :
    unsigned text = digits := by
  unfold unsigned
  rcases hsign with rfl | rfl
  · split
    · next rest hplus =>
      -- A digit is no sign.
      have hmem : '+' ∈ digits := by
        rw [← List.nil_append digits, ← htext, hplus]
        exact List.mem_cons_self
      exact absurd (hdigits '+' hmem) (by decide)
    · exact htext
  · rw [htext]
    rfl

theorem readNatural?_eq_unsigned {bound n : Nat} {text : String} : readNatural? bound text = some n ↔
    (unsigned text ≠ [] ∧ (∀ d ∈ unsigned text, d.isDigit = true) ∧ digitsValue (unsigned text) = n) ∧
      n < bound := by
  have hread : readNatural? bound text =
      if !(unsigned text).isEmpty && (unsigned text).all Char.isDigit && digitsValue (unsigned text) < bound
      then some (digitsValue (unsigned text)) else none := rfl
  rw [hread]
  constructor
  · intro h
    split at h
    · next hc =>
      cases h
      simpa [and_assoc] using hc
    · cases h
  · rintro ⟨⟨hsome, hdigits, rfl⟩, hbound⟩
    rw [if_pos]
    simp [hsome, hbound, List.all_eq_true.mpr hdigits]

/-- The texts that are read as a number are the ways of writing it, if it is below the bound. -/
theorem readNatural?_eq_some {bound n : Nat} {text : String} :
    readNatural? bound text = some n ↔ WrittenAs text n ∧ n < bound := by
  rw [readNatural?_eq_unsigned]
  refine and_congr_left fun _ => ⟨?_, ?_⟩
  · rintro ⟨hsome, hdigits, rfl⟩
    obtain ⟨sign, hsign, htext⟩ := exists_sign text
    obtain ⟨zeros, hzeros⟩ := exists_zeros hsome hdigits
    refine ⟨sign, zeros, hsign, ?_⟩
    rw [toString_toList, ← hzeros, htext]
  · rintro ⟨sign, zeros, hsign, htext⟩
    obtain ⟨hsome, hdigits, hvalue⟩ := zeros_toString zeros n
    rw [unsigned_eq hsign hdigits htext]
    exact ⟨hsome, hdigits, hvalue⟩

/-- A number is read back from its decimal form. -/
theorem readNatural?_toString {n bound : Nat} (h : n < bound) : readNatural? bound (toString n) = some n :=
  readNatural?_eq_some.mpr ⟨⟨[], 0, .inl rfl, rfl⟩, h⟩

end SwaggerService
