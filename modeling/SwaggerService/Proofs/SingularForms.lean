import Mathlib.Data.String.Basic
import SwaggerService.Naming.Singular
import SwaggerService.Proofs.LowercaseForms

/-! # Singular forms

A singular is found in the lowercase form of a word and made out of the word itself, and the two may differ in
length. They agree where it counts: what is cut off a lowercase form consists of plain letters, each of which
stands for a single byte of the word. So every cut falls between two characters of the word, and the singular
of a word is not empty. -/

namespace SwaggerService.Naming

open Text

/-! ## Cutting bytes -/

@[simp]
theorem byteLength_nil : byteLength [] = 0 := rfl

@[simp]
theorem byteLength_cons (c : Char) (cs : List Char) : byteLength (c :: cs) = c.utf8Size + byteLength cs := rfl

theorem byteLength_eq (cs : List Char) : byteLength cs = (String.ofList cs).utf8ByteSize := by
  rw [String.utf8ByteSize_ofList]
  induction cs with
  | nil => rfl
  | cons c cs ih => rw [byteLength_cons, ih, String.utf8Len_cons, Nat.add_comm]

theorem byteLength_reverse (cs : List Char) : byteLength cs.reverse = byteLength cs := by
  simp only [byteLength_eq, String.utf8ByteSize_ofList, String.utf8Len_reverse]

theorem byteLength_of_ascii {cs : List Char} (h : ∀ c ∈ cs, isAscii c) : byteLength cs = cs.length := by
  induction cs with
  | nil => rfl
  | cons c cs ih =>
    obtain ⟨hc, hcs⟩ := List.forall_mem_cons.mp h
    have hone : c.utf8Size = 1 := by
      rw [Char.utf8Size_eq_one_iff, UInt32.le_iff_toNat_le]
      exact Nat.le_of_lt_succ (by simpa [isAscii] using hc)
    rw [byteLength_cons, hone, ih hcs, List.length_cons, Nat.add_comm]

theorem dropBytes?_eq_some {bytes : Nat} {cs rest : List Char} :
    dropBytes? bytes cs = some rest ↔ ∃ taken, cs = taken ++ rest ∧ byteLength taken = bytes := by
  fun_induction dropBytes? bytes cs generalizing rest with
  | case1 cs =>
    constructor
    · rintro ⟨⟩
      exact ⟨[], rfl, rfl⟩
    · rintro ⟨taken, rfl, hbytes⟩
      cases taken with
      | nil => rfl
      | cons c taken =>
        have hc := c.utf8Size_pos
        rw [byteLength_cons] at hbytes
        omega
  | case2 bytes =>
    refine iff_of_false nofun ?_
    rintro ⟨taken, hnil, hbytes⟩
    rw [(List.append_eq_nil_iff.mp hnil.symm).1] at hbytes
    exact absurd hbytes (by simp)
  | case3 bytes c cs hfits ih =>
    rw [ih]
    constructor
    · rintro ⟨taken, rfl, hbytes⟩
      exact ⟨c :: taken, rfl, by rw [byteLength_cons]; omega⟩
    · rintro ⟨taken, hcs, hbytes⟩
      cases taken with
      | nil => exact absurd hbytes (by simp)
      | cons d taken =>
        obtain ⟨rfl, rfl⟩ := List.cons.inj hcs
        rw [byteLength_cons] at hbytes
        exact ⟨taken, rfl, by omega⟩
  | case4 bytes c cs hlong =>
    refine iff_of_false nofun ?_
    rintro ⟨taken, hcs, hbytes⟩
    cases taken with
    | nil => exact absurd hbytes (by simp)
    | cons d taken =>
      obtain ⟨rfl, rfl⟩ := List.cons.inj hcs
      rw [byteLength_cons] at hbytes
      omega

theorem cutBytes?_eq_some {bytes : Nat} {cs front : List Char} :
    cutBytes? bytes cs = some front ↔ ∃ back, cs = front ++ back ∧ byteLength back = bytes := by
  rw [cutBytes?, Option.map_eq_some_iff]
  constructor
  · rintro ⟨rest, hrest, rfl⟩
    obtain ⟨taken, hcs, hbytes⟩ := dropBytes?_eq_some.mp hrest
    refine ⟨taken.reverse, ?_, by rw [byteLength_reverse, hbytes]⟩
    rw [← List.reverse_append, ← hcs, List.reverse_reverse]
  · rintro ⟨back, rfl, hbytes⟩
    refine ⟨front.reverse, dropBytes?_eq_some.mpr ⟨back.reverse, ?_, ?_⟩, List.reverse_reverse front⟩
    · rw [List.reverse_append]
    · rw [byteLength_reverse, hbytes]

/-- Bytes can be cut off a word exactly if a character begins or the word ends where they begin. -/
theorem cutBytes?_eq_some_iff_pos {bytes : Nat} {word : String} {front : List Char} :
    cutBytes? bytes word.toList = some front ↔ bytes ≤ word.utf8ByteSize ∧
      ∃ edge : word.Pos, edge.offset.byteIdx = word.utf8ByteSize - bytes ∧
        (word.sliceTo edge).copy = String.ofList front := by
  rw [cutBytes?_eq_some]
  constructor
  · rintro ⟨back, hword, rfl⟩
    have hsplit : word = String.ofList front ++ String.ofList back := by
      rw [← String.ofList_append, ← hword, String.ofList_toList]
    have hsize : word.utf8ByteSize = (String.ofList front).utf8ByteSize + byteLength back := by
      rw [byteLength_eq, ← String.utf8ByteSize_append, ← hsplit]
    let edge : word.Pos := ⟨(String.ofList front).rawEndPos,
      String.Pos.Raw.isValid_iff_exists_append.mpr ⟨_, _, hsplit, rfl⟩⟩
    have hedge : edge.Splits (String.ofList front) (String.ofList back) := ⟨hsplit, rfl⟩
    refine ⟨by omega, edge, ?_, hedge.copy_sliceTo_eq⟩
    change (String.ofList front).utf8ByteSize = _
    omega
  · rintro ⟨hle, edge, hoffset, hfront⟩
    have hedge := edge.splits
    refine ⟨(word.sliceFrom edge).copy.toList, ?_, ?_⟩
    · rw [← String.toList_ofList (l := front), ← hfront, ← String.toList_append, ← hedge.eq_append]
    · have hsize := congrArg String.utf8ByteSize hedge.eq_append
      have hfirst := congrArg String.Pos.Raw.byteIdx hedge.offset_eq_rawEndPos
      rw [String.utf8ByteSize_append] at hsize
      rw [byteLength_eq, String.ofList_toList]
      change edge.offset.byteIdx = (word.sliceTo edge).copy.utf8ByteSize at hfirst
      omega

/-! ## What an inflection finds -/

theorem endsIn_iff {suffix : String} {cs : List Char} : endsIn suffix cs ↔ suffix.toList <:+ cs :=
  List.isSuffixOf_iff_suffix

/-- The plurals that lose two letters have letters before them. -/
theorem es_plurals : ∀ suffix ∈ ["sses", "shes", "ches", "xes", "zzes", "uses"],
    ∃ stem, stem ≠ [] ∧ suffix.toList = stem ++ ['e', 's'] := by
  simp only [List.forall_mem_cons]
  exact ⟨⟨['s', 's'], by decide, by decide⟩, ⟨['s', 'h'], by decide, by decide⟩,
    ⟨['c', 'h'], by decide, by decide⟩, ⟨['x'], by decide, by decide⟩, ⟨['z', 'z'], by decide, by decide⟩,
    ⟨['u', 's'], by decide, by decide⟩, nofun⟩

/-- What an inflection relies on in a lowercase text. The letters that are cut off are plain ones, and other
letters remain or come in their place. -/
inductive Inflection.Suits (lower : List Char) : Inflection → Prop
  | unchanged : Suits lower .unchanged
  | replaced {singular : String} (listed : (String.ofList lower, singular) ∈ irregular) :
      Suits lower (.replaced singular)
  | cut {front ending : List Char} (back : List Char) (parts : lower = front ++ back)
      (plain : back.all isPlain) (nonempty : back ≠ [])
      (remains : ending = [] ∧ front ≠ [] ∨ ending = ['y']) : Suits lower (.cut back.length ending)

theorem inflection_suits (lower : List Char) : (inflection lower).Suits lower := by
  unfold inflection
  split
  · exact .unchanged
  · split
    · next singular hlookup =>
      obtain ⟨before, after, htable, _⟩ := List.lookup_eq_some_iff.mp hlookup
      exact .replaced (by simp [htable])
    · split
      · next h =>
        obtain ⟨hends, _⟩ := Bool.and_eq_true_iff.mp h
        obtain ⟨front, hfront⟩ := endsIn_iff.mp hends
        exact .cut ['i', 'e', 's'] hfront.symm (by decide) (by decide) (.inr rfl)
      · split
        · next h =>
          obtain ⟨suffix, hmem, hends⟩ := List.any_eq_true.mp h
          obtain ⟨front, hfront⟩ := endsIn_iff.mp hends
          obtain ⟨stem, hstem, hsuffix⟩ := es_plurals suffix hmem
          rw [hsuffix, ← List.append_assoc] at hfront
          exact .cut ['e', 's'] hfront.symm (by decide) (by decide)
            (.inl ⟨rfl, List.append_ne_nil_of_right_ne_nil _ hstem⟩)
        · split
          · exact .unchanged
          · split
            · next h =>
              obtain ⟨hends, hlong⟩ := Bool.and_eq_true_iff.mp h
              obtain ⟨front, hfront⟩ := endsIn_iff.mp hends
              refine .cut ['s'] hfront.symm (by decide) (by decide) (.inl ⟨rfl, ?_⟩)
              -- With nothing in front of it the `s` would be the whole text, which has one byte.
              rintro rfl
              exact absurd hlong (by rw [← hfront]; decide)
            · exact .unchanged

theorem irregular_ne_empty : ∀ row ∈ irregular, row.1 ≠ "" ∧ row.2 ≠ "" := by decide

/-! ## What an inflection makes of a word -/

/-- Plain letters at the end of a lowercase text can be cut off the text itself. -/
theorem cutBytes?_of_lowered {cs front back : List Char} (h : Lowered cs (front ++ back))
    (hplain : back.all isPlain) : ∃ rest, cutBytes? back.length cs = some rest ∧ Lowered rest front := by
  obtain ⟨rest, letters, rfl, hletters, hascii, hrest⟩ := h.of_append hplain
  refine ⟨rest, cutBytes?_eq_some.mpr ⟨letters, rfl, ?_⟩, hrest⟩
  rw [byteLength_of_ascii hascii, ← hletters, List.length_map]

/-- The results of inflecting a word. A cut leaves the part of the word in front of a place where a character
begins, or where the word ends. -/
inductive Inflected (word : String) : Inflection → String → Prop
  | unchanged : Inflected word .unchanged word
  | replaced {singular : String} (listed : (String.ofList (lowercaseText word.toList), singular) ∈ irregular) :
      Inflected word (.replaced singular) singular
  | cut {bytes : Nat} {ending : List Char} (edge : word.Pos) (positive : 0 < bytes)
      (fits : bytes ≤ word.utf8ByteSize) (reached : edge.offset.byteIdx = word.utf8ByteSize - bytes)
      (remains : ending = [] ∧ (word.sliceTo edge).copy ≠ "" ∨ ending = ['y']) :
      Inflected word (.cut bytes ending) ((word.sliceTo edge).copy ++ String.ofList ending)

/-- An inflection that suits the lowercase form of a word has a result for the word. -/
theorem Inflection.Suits.inflected {word : String} {i : Inflection} (h : i.Suits (lowercaseText word.toList)) :
    ∃ result, i.inflect? word.toList = some result ∧ Inflected word i (String.ofList result) := by
  cases h with
  | unchanged =>
    refine ⟨word.toList, rfl, ?_⟩
    rw [String.ofList_toList]
    exact .unchanged
  | @replaced singular hlisted =>
    refine ⟨singular.toList, rfl, ?_⟩
    rw [String.ofList_toList]
    exact .replaced hlisted
  | @cut front ending back hparts hplain hback hremains =>
    obtain ⟨rest, hcut, hrest⟩ := cutBytes?_of_lowered (hparts ▸ lowercaseText_lowered word.toList) hplain
    obtain ⟨hfits, edge, hreached, hslice⟩ := cutBytes?_eq_some_iff_pos.mp hcut
    refine ⟨rest ++ ending, by rw [Inflection.inflect?, hcut, Option.map_some], ?_⟩
    rw [String.ofList_append, ← hslice]
    refine .cut edge (List.length_pos_iff.mpr hback) hfits hreached (hremains.imp_left ?_)
    -- Something is left of the word because something is left of its lowercase form.
    rintro ⟨hending, hfront⟩
    refine ⟨hending, fun hempty => hfront (hrest.eq_nil_iff.mp ?_)⟩
    rwa [hslice, String.ofList_eq_empty_iff] at hempty

/-- The singular of a word is a result of its inflection, and never the word for want of one. -/
theorem singularize_inflected (word : String) :
    (inflection (lowercaseText word.toList)).inflect? word.toList = some (singularize word).toList ∧
      Inflected word (inflection (lowercaseText word.toList)) (singularize word) := by
  obtain ⟨result, hresult, hinflected⟩ := (inflection_suits (lowercaseText word.toList)).inflected
  have hsingular : singularize word = String.ofList result := by
    rw [singularize, hresult]
    rfl
  rw [hsingular, String.toList_ofList]
  exact ⟨hresult, hinflected⟩

namespace Inflected

variable {word result : String} {i : Inflection}

theorem of_cut {bytes : Nat} {ending : List Char} (h : Inflected word (.cut bytes ending) result) :
    bytes ≤ word.utf8ByteSize ∧ ∃ edge : word.Pos, edge.offset.byteIdx = word.utf8ByteSize - bytes ∧
      result = (word.sliceTo edge).copy ++ String.ofList ending := by
  cases h with
  | cut edge _ hfits hreached _ => exact ⟨hfits, edge, hreached, rfl⟩

theorem forms (h : Inflected word i result) :
    result = word ∨
    (∃ edge : word.Pos, result = (word.sliceTo edge).copy) ∨
    (∃ edge : word.Pos, result = (word.sliceTo edge).copy ++ "y") ∨
    (String.ofList (lowercaseText word.toList), result) ∈ irregular := by
  cases h with
  | unchanged => exact .inl rfl
  | replaced hlisted => exact .inr (.inr (.inr hlisted))
  | cut edge _ _ _ hremains =>
    obtain ⟨rfl, _⟩ | rfl := hremains
    · exact .inr (.inl ⟨edge, by rw [String.ofList_nil, String.append_empty]⟩)
    · exact .inr (.inr (.inl ⟨edge, rfl⟩))

theorem eq_empty_iff (h : Inflected word i result) : result = "" ↔ word = "" := by
  cases h with
  | unchanged => exact Iff.rfl
  | replaced hlisted =>
    obtain ⟨hplural, hsingular⟩ := irregular_ne_empty _ hlisted
    refine iff_of_false hsingular ?_
    rintro rfl
    exact hplural rfl
  | cut edge hpositive hfits _ hremains =>
    refine iff_of_false ?_ ?_
    · rw [String.append_eq_empty_iff, String.ofList_eq_empty_iff]
      rintro ⟨hfront, rfl⟩
      obtain ⟨_, hsome⟩ | hy := hremains
      · exact hsome hfront
      · cases hy
    · rintro rfl
      exact absurd hfits (Nat.not_le_of_lt hpositive)

end Inflected

/-- No cut breaks a word. What is cut off is found in the lowercase form of the word, and its bytes are no more
than the word has and begin where one of its characters does. The singular is therefore the word, or the part
in front of such a place, with or without a `y`, or the listed singular of an irregular plural, and only the
empty word has an empty one. -/
theorem cuts_between_characters (word : String) :
    (inflection (lowercaseText word.toList)).inflect? word.toList = some (singularize word).toList ∧
    (∀ bytes ending, inflection (lowercaseText word.toList) = .cut bytes ending →
      bytes ≤ word.utf8ByteSize ∧ ∃ edge : word.Pos, edge.offset.byteIdx = word.utf8ByteSize - bytes ∧
        singularize word = (word.sliceTo edge).copy ++ String.ofList ending) ∧
    (singularize word = word ∨
      (∃ edge : word.Pos, singularize word = (word.sliceTo edge).copy) ∨
      (∃ edge : word.Pos, singularize word = (word.sliceTo edge).copy ++ "y") ∨
      (String.ofList (lowercaseText word.toList), singularize word) ∈ irregular) ∧
    (singularize word = "" ↔ word = "") := by
  obtain ⟨hdone, hinflected⟩ := singularize_inflected word
  refine ⟨hdone, ?_, hinflected.forms, hinflected.eq_empty_iff⟩
  intro bytes ending hcut
  rw [hcut] at hinflected
  exact hinflected.of_cut

/-- The Kelvin sign loses two bytes in lowercase and the sigma in front of the hyphen has its final form, but
the three bytes are the letters `IES` of the word. -/
theorem kelvin_cut_between_characters :
    inflection (lowercaseText "ΟΔΟΣ-\u212aIES".toList) = .cut 3 ['y'] ∧ 3 ≤ "ΟΔΟΣ-\u212aIES".utf8ByteSize ∧
      ∃ edge : "ΟΔΟΣ-\u212aIES".Pos, edge.offset.byteIdx = "ΟΔΟΣ-\u212aIES".utf8ByteSize - 3 ∧
        singularize "ΟΔΟΣ-\u212aIES" = ("ΟΔΟΣ-\u212aIES".sliceTo edge).copy ++ String.ofList ['y'] := by
  have hcut : inflection (lowercaseText "ΟΔΟΣ-\u212aIES".toList) = .cut 3 ['y'] := by decide +kernel
  exact ⟨hcut, (cuts_between_characters "ΟΔΟΣ-\u212aIES").2.1 3 ['y'] hcut⟩

-- The lowercase form of `İ` is an `i` and a dot above, which stands between the `i` and the `es`.
example : singularize "İES" = "İE" := by decide +kernel

end SwaggerService.Naming
