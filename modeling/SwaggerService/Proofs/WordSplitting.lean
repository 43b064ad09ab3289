import Mathlib.Data.List.SplitBy
import SwaggerService.Naming.Words
import SwaggerService.Proofs.LowercaseForms

/-! # Splitting into words

What the words of a text are, said without going through the text: its maximal runs of alphanumeric
characters, cut where a new word begins, in lowercase. Nothing that is alphanumeric is lost, and no word is
empty, because no character has an empty lowercase form. The same words are found by a scan from left to
right that keeps the open word apart and looks around by position; it never looks back from the first
position. -/

namespace SwaggerService.Naming

open Text

/-! ## Words that are joined again -/

theorem consWord_of_ne_nil {word : List Char} (h : word ≠ []) (later : List (List Char)) :
    consWord word later = word :: later := if_neg (by simpa using h)

theorem consWord_append (word : List Char) (later : List (List Char)) :
    consWord word later = consWord word [] ++ later := by
  unfold consWord
  split
  · rfl
  · rfl

theorem nil_notMem_consWord {word : List Char} {later : List (List Char)} (h : [] ∉ later) :
    [] ∉ consWord word later := by
  unfold consWord
  split
  · exact h
  · next hword =>
    intro hm
    rcases List.mem_cons.mp hm with rfl | hm
    · exact hword rfl
    · exact h hm

theorem flatten_consWord (word : List Char) (later : List (List Char)) :
    (consWord word later).flatten = word ++ later.flatten := by
  unfold consWord
  split
  · next hword => rw [List.isEmpty_iff.mp hword, List.nil_append]
  · rfl

theorem nil_notMem_splitWords (before : Option Char) (s : List Char) : [] ∉ (splitWords before s).2 := by
  induction s generalizing before with
  | nil => exact List.not_mem_nil
  | cons c rest ih =>
    unfold splitWords
    split
    · dsimp only
      split
      · exact nil_notMem_consWord (ih _)
      · exact ih _
    · exact nil_notMem_consWord (ih _)

theorem nil_notMem_words (s : List Char) : [] ∉ words s := nil_notMem_consWord (nil_notMem_splitWords none s)

theorem flatten_splitWords (before : Option Char) (s : List Char) :
    (splitWords before s).1 ++ (splitWords before s).2.flatten = (s.filter isAlphanumeric).flatMap lowercase := by
  induction s generalizing before with
  | nil => rfl
  | cons c rest ih =>
    unfold splitWords
    by_cases hc : isAlphanumeric c
    · rw [if_pos hc, List.filter_cons_of_pos hc, List.flatMap_cons, ← ih (some c)]
      dsimp only
      split
      · rw [flatten_consWord, List.nil_append, List.append_assoc]
      · rw [List.append_assoc]
    · rw [if_neg hc, List.filter_cons_of_neg hc, ← ih none]
      exact flatten_consWord _ _

/-- The words of a text, joined, are the lowercase forms of its alphanumeric characters. -/
theorem flatten_words (s : List Char) : (words s).flatten = (s.filter isAlphanumeric).flatMap lowercase :=
  (flatten_consWord _ _).trans (flatten_splitWords none s)

/-- The two ways of joining words differ in the first character only. -/
theorem pascalChars_eq (s : List Char) :
    pascalChars s = ((camelChars s).take 1).flatMap uppercase ++ (camelChars s).drop 1 := by
  unfold pascalChars camelChars
  cases hw : words s with
  | nil => rfl
  | cons word later =>
    have hword : word ≠ [] := fun hnil => nil_notMem_words s (hw ▸ hnil ▸ List.mem_cons_self)
    obtain ⟨c, rest, rfl⟩ := List.exists_cons_of_ne_nil hword
    simp [capitalize]

/-! ## Runs and pieces -/

/-- A character of a text, with the one after it in the text. -/
structure Place where
  char : Char
  next : Option Char

/-- The characters of a text with those after them. -/
def places : List Char → List Place
  | [] => []
  | c :: rest => ⟨c, rest.head?⟩ :: places rest

/-- The maximal runs of alphanumeric characters, in order. -/
def runs (ps : List Place) : List (List Place) :=
  (ps.splitOnP fun p => !isAlphanumeric p.char).filter fun run => !run.isEmpty

/-- A new word begins at the second one of two neighbours in a run: it is uppercase, and the one before it is
lowercase, or an ASCII digit, or uppercase while the next character of the text is lowercase. -/
def NewWord (before p : Place) : Prop :=
  isUppercase p.char ∧ (isLowercase before.char ∨ before.char.isDigit ∨
    isUppercase before.char ∧ ∃ c, p.next = some c ∧ isLowercase c)

instance (before p : Place) : Decidable (NewWord before p) :=
  inferInstanceAs (Decidable (_ ∧ (_ ∨ _ ∨ _ ∧ _)))

/-- The pieces of a run, which is cut before each of its characters that a new word begins at. -/
def pieces (run : List Place) : List (List Place) := run.splitBy fun before p => !decide (NewWord before p)

/-- The word of a piece: its characters in lowercase, one by one. -/
def spelled (piece : List Place) : List Char := piece.flatMap fun p => lowercase p.char

/-- The words of characters that stand in a text. -/
def pieceWords (ps : List Place) : List (List Char) := ((runs ps).flatMap pieces).map spelled

theorem runs_gap {p : Place} (hp : ¬ isAlphanumeric p.char) (ps : List Place) : runs (p :: ps) = runs ps := by
  unfold runs
  rw [List.splitOnP_cons_eq_if_modifyHead, if_pos (by simpa using hp)]
  rfl

/-- A run that ends with its first character. -/
theorem runs_end {p : Place} {ps : List Place} (hp : isAlphanumeric p.char)
    (hps : ∀ q ∈ ps.head?, ¬ isAlphanumeric q.char) : runs (p :: ps) = [p] :: runs ps := by
  unfold runs
  rw [List.splitOnP_cons_eq_if_modifyHead, if_neg (by simpa using hp)]
  cases ps with
  | nil => rfl
  | cons q ps =>
    rw [List.splitOnP_cons_eq_if_modifyHead, if_pos (by simpa using hps q rfl)]
    rfl

/-- A run that goes on. -/
theorem runs_next {p q : Place} (hp : isAlphanumeric p.char) (hq : isAlphanumeric q.char) (ps : List Place) :
    ∃ run rest, runs (q :: ps) = (q :: run) :: rest ∧ runs (p :: q :: ps) = (p :: q :: run) :: rest := by
  obtain ⟨run, rest, hrest⟩ := List.exists_cons_of_ne_nil (List.splitOnP_ne_nil
    (fun p : Place => !isAlphanumeric p.char) ps)
  refine ⟨run, rest.filter fun run => !run.isEmpty, ?_, ?_⟩
  · unfold runs
    rw [List.splitOnP_cons_eq_if_modifyHead, if_neg (by simpa using hq), hrest]
    rfl
  · unfold runs
    rw [List.splitOnP_cons_eq_if_modifyHead, if_neg (by simpa using hp),
      List.splitOnP_cons_eq_if_modifyHead, if_neg (by simpa using hq), hrest]
    rfl

theorem pieces_single (p : Place) : pieces [p] = [[p]] := rfl

theorem pieces_cut {p q : Place} (h : NewWord p q) (run : List Place) :
    pieces (p :: q :: run) = [p] :: pieces (q :: run) :=
  List.splitBy_append_cons (l := [p]) run (by simpa using h)

theorem pieces_join {p q : Place} {run piece : List Place} {rest : List (List Place)} (h : ¬ NewWord p q)
    (hpieces : pieces (q :: run) = piece :: rest) : pieces (p :: q :: run) = (p :: piece) :: rest := by
  obtain ⟨hflat, hnil, hwithin, hbetween⟩ := List.splitBy_eq_iff.mp hpieces
  rw [List.mem_cons, not_or] at hnil
  obtain ⟨first, others, rfl⟩ := List.exists_cons_of_ne_nil (Ne.symm hnil.1)
  obtain rfl : q = first := (List.cons.inj hflat).1
  refine List.splitBy_eq_iff.mpr ⟨?_, ?_, ?_, ?_⟩
  · rw [hflat]
    rfl
  · rw [List.mem_cons, not_or]
    exact ⟨nofun, hnil.2⟩
  · obtain ⟨hfirst, hothers⟩ := List.forall_mem_cons.mp hwithin
    exact List.forall_mem_cons.mpr ⟨hfirst.cons_cons (by simpa using h), hothers⟩
  · cases rest with
    | nil => exact List.isChain_singleton _
    | cons second rest =>
      obtain ⟨⟨_, hsecond, hlast⟩, hchain⟩ := List.isChain_cons_cons.mp hbetween
      exact hchain.cons_cons ⟨List.cons_ne_nil _ _, hsecond, hlast⟩

theorem pieceWords_gap {p : Place} (hp : ¬ isAlphanumeric p.char) (ps : List Place) :
    pieceWords (p :: ps) = pieceWords ps := by
  rw [pieceWords, runs_gap hp, pieceWords]

theorem pieceWords_end {p : Place} {ps : List Place} (hp : isAlphanumeric p.char)
    (hps : ∀ q ∈ ps.head?, ¬ isAlphanumeric q.char) :
    pieceWords (p :: ps) = lowercase p.char :: pieceWords ps := by
  rw [pieceWords, runs_end hp hps, pieceWords, List.flatMap_cons, pieces_single]
  simp [spelled]

theorem pieceWords_cut {p q : Place} (hp : isAlphanumeric p.char) (hq : isAlphanumeric q.char)
    (h : NewWord p q) (ps : List Place) :
    pieceWords (p :: q :: ps) = lowercase p.char :: pieceWords (q :: ps) := by
  obtain ⟨run, rest, hruns, hruns'⟩ := runs_next hp hq ps
  rw [pieceWords, pieceWords, hruns, hruns', List.flatMap_cons, List.flatMap_cons, pieces_cut h]
  simp [spelled]

theorem pieceWords_join {p q : Place} {ps : List Place} {word : List Char} {later : List (List Char)}
    (hp : isAlphanumeric p.char) (hq : isAlphanumeric q.char) (h : ¬ NewWord p q)
    (hwords : pieceWords (q :: ps) = word :: later) :
    pieceWords (p :: q :: ps) = (lowercase p.char ++ word) :: later := by
  obtain ⟨run, rest, hruns, hruns'⟩ := runs_next hp hq ps
  have hsome : pieces (q :: run) ≠ [] := List.splitBy_ne_nil.mpr (List.cons_ne_nil q run)
  obtain ⟨piece, others, hpieces⟩ := List.exists_cons_of_ne_nil hsome
  rw [pieceWords, hruns, List.flatMap_cons, hpieces] at hwords
  rw [pieceWords, hruns', List.flatMap_cons, pieces_join h hpieces]
  obtain ⟨rfl, rfl⟩ := List.cons.inj hwords
  rfl

theorem cutBefore_iff {b c : Char} {next next' : Option Char} :
    cutBefore (some b) c next = true ↔ NewWord ⟨b, next'⟩ ⟨c, next⟩ := by
  simp [cutBefore, beginsWord, NewWord, Option.any_eq_true, or_assoc]

/-- The words of a text, from its beginning and from the inside of a word. -/
theorem pieceWords_places (s : List Char) : pieceWords (places s) = words s ∧
    ∀ b, isAlphanumeric b → pieceWords (places (b :: s)) =
      (lowercase b ++ (splitWords (some b) s).1) :: (splitWords (some b) s).2 := by
  induction s with
  | nil =>
    refine ⟨rfl, fun b hb => ?_⟩
    rw [places, pieceWords_end hb (by rintro _ ⟨⟩)]
    simp [places, splitWords, pieceWords, runs]
  | cons c rest ih =>
    obtain ⟨ihfirst, ihinside⟩ := ih
    by_cases hc : isAlphanumeric c
    · have hwords : pieceWords (places (c :: rest)) = words (c :: rest) := by
        rw [ihinside c hc, words, splitWords, if_pos hc]
        exact (consWord_of_ne_nil (List.append_ne_nil_of_left_ne_nil (lowercase_ne_nil c) _) _).symm
      refine ⟨hwords, fun b hb => ?_⟩
      rw [splitWords, if_pos hc]
      by_cases hcut : cutBefore (some b) c rest.head?
      · rw [places, places, pieceWords_cut hb hc (cutBefore_iff.mp hcut), ← places, ihinside c hc]
        dsimp only
        rw [if_pos hcut, List.append_nil, consWord_of_ne_nil]
        exact List.append_ne_nil_of_left_ne_nil (lowercase_ne_nil c) _
      · rw [places, places, pieceWords_join hb hc (fun h => hcut (cutBefore_iff.mpr h)) (ihinside c hc)]
        dsimp only
        rw [if_neg hcut]
    · have hwords : pieceWords (places (c :: rest)) = words (c :: rest) := by
        rw [places, pieceWords_gap hc, ihfirst, words, words, splitWords, if_neg hc]
        rfl
      refine ⟨hwords, fun b hb => ?_⟩
      rw [places, pieceWords_end hb (by rintro _ ⟨⟩; exact hc), hwords, words, splitWords, splitWords,
        if_neg hc, if_neg hc]
      simp [consWord]

/-! ## A scan from left to right -/

/-- How far a scan has come: the words that are finished and the characters of the open one. Between two
runs the open word is empty. -/
structure Scan where
  finished : List (List Char) := []
  word : List Char := []

namespace Scan

/-- The words when the open one is finished, if it has begun. -/
def words (scan : Scan) : List (List Char) := scan.finished ++ consWord scan.word []

/-- Finishes the open word. -/
def finish (scan : Scan) : Scan := ⟨scan.words, []⟩

/-- Adds a character to the open word. -/
def extend (scan : Scan) (c : Char) : Scan := { scan with word := scan.word ++ lowercase c }

/-- The character at the position before `i`; there is none before the first position. -/
def lookBack (s : List Char) : Nat → Option Char
  | 0 => none
  | i + 1 => s[i]?

/-- Reads the character `c` at the position `i` of a text. Nothing comes of a look back that meets no
character. -/
def step (s : List Char) (scan : Scan) : Char × Nat → Option Scan
  | (c, i) =>
    if !isAlphanumeric c then some scan.finish
    else if isUppercase c && !scan.word.isEmpty then
      (lookBack s i).map fun before =>
        if isLowercase before || before.isDigit || (isUppercase before && s[i + 1]?.any isLowercase) then
          scan.finish.extend c
        else scan.extend c
    else some (scan.extend c)

/-- The words that a scan finds in a text, if it never looks back in vain. -/
def run (s : List Char) : Option (List (List Char)) := (s.zipIdx.foldlM (step s) {}).map words

/-- The last character that was read, when the word that it belongs to is still open. -/
def lastOpen (front : List Char) : Option Char := front.getLast?.filter isAlphanumeric

theorem lookBack_append {front : List Char} {b : Char} (h : lastOpen front = some b) (rest : List Char) :
    lookBack (front ++ rest) front.length = some b := by
  obtain ⟨hlast, _⟩ := Option.filter_eq_some_iff.mp h
  obtain ⟨init, rfl⟩ := List.getLast?_eq_some_iff.mp hlast
  simp [lookBack]

/-- A scan whose open word has begun exactly if the last character is part of one. -/
def Follows (scan : Scan) (front : List Char) : Prop := scan.word = [] ↔ lastOpen front = none

/-- A look back is always met by the last character of the open word. -/
theorem step_eq {scan : Scan} {front : List Char} (h : scan.Follows front) (c : Char) (rest : List Char) :
    step (front ++ c :: rest) scan (c, front.length) = some (
      if isAlphanumeric c then
        if cutBefore (lastOpen front) c rest.head? then scan.finish.extend c else scan.extend c
      else scan.finish) := by
  have hnext : (front ++ c :: rest)[front.length + 1]? = rest.head? := by
    rw [List.getElem?_append_right (Nat.le_add_right _ 1), Nat.add_sub_cancel_left, List.getElem?_cons_succ,
      List.head?_eq_getElem?]
  unfold step
  by_cases hc : isAlphanumeric c
  · cases hb : lastOpen front with
    | none => simp [hc, cutBefore, h.mpr hb]
    | some b =>
      have hword : scan.word ≠ [] := fun hnil => by simp [h.mp hnil] at hb
      by_cases hu : isUppercase c
      · simp [hc, hu, hword, hnext, lookBack_append hb, cutBefore, beginsWord]
      · simp [hc, hu, cutBefore, beginsWord]
  · simp [hc]

theorem follows_extend (scan : Scan) (front : List Char) {c : Char} (hc : isAlphanumeric c) :
    (scan.extend c).Follows (front ++ [c]) := by
  simp [Follows, extend, lastOpen, hc, lowercase_ne_nil]

theorem follows_finish (scan : Scan) (front : List Char) {c : Char} (hc : ¬ isAlphanumeric c) :
    scan.finish.Follows (front ++ [c]) := by
  simp [Follows, finish, lastOpen, hc]

theorem lastOpen_concat (front : List Char) {c : Char} (hc : isAlphanumeric c) :
    lastOpen (front ++ [c]) = some c := by
  simp [lastOpen, hc]

/-- From any position a scan finds the rest of the open word and the words after it. -/
theorem foldlM_step (rest : List Char) {scan : Scan} {front : List Char} (h : scan.Follows front) :
    ∃ scan', (rest.zipIdx front.length).foldlM (step (front ++ rest)) scan = some scan' ∧
      scan'.words = scan.finished ++
        consWord (scan.word ++ (splitWords (lastOpen front) rest).1) (splitWords (lastOpen front) rest).2 := by
  induction rest generalizing scan front with
  | nil => exact ⟨scan, rfl, by simp [words, splitWords]⟩
  | cons c rest ih =>
    have hfront : front ++ c :: rest = front ++ [c] ++ rest := by simp
    have hlength : front.length + 1 = (front ++ [c]).length := by simp
    rw [List.zipIdx_cons, List.foldlM_cons, step_eq h, Option.bind_eq_bind, Option.bind_some, hfront, hlength,
      splitWords]
    by_cases hc : isAlphanumeric c
    · rw [if_pos hc, if_pos hc]
      by_cases hcut : cutBefore (lastOpen front) c rest.head?
      · rw [if_pos hcut]
        obtain ⟨scan', hrun, hwords⟩ := ih (follows_extend scan.finish front hc)
        refine ⟨scan', hrun, ?_⟩
        rw [hwords, lastOpen_concat front hc]
        dsimp only
        rw [if_pos hcut, List.append_nil, consWord_append scan.word, ← List.append_assoc]
        rfl
      · rw [if_neg hcut]
        obtain ⟨scan', hrun, hwords⟩ := ih (follows_extend scan front hc)
        refine ⟨scan', hrun, ?_⟩
        rw [hwords, lastOpen_concat front hc]
        dsimp only
        rw [if_neg hcut, ← List.append_assoc]
        rfl
    · rw [if_neg hc, if_neg hc]
      obtain ⟨scan', hrun, hwords⟩ := ih (follows_finish scan front hc)
      refine ⟨scan', hrun, ?_⟩
      have hclosed : lastOpen (front ++ [c]) = none := (follows_finish scan front hc).mp rfl
      rw [hwords, hclosed]
      dsimp only
      rw [List.append_nil, consWord_append scan.word, ← List.append_assoc]
      rfl

/-- A scan never looks back in vain, and finds the words. -/
theorem run_eq (s : List Char) : run s = some (Naming.words s) := by
  have hstart : Follows {} [] := ⟨fun _ => rfl, fun _ => rfl⟩
  obtain ⟨scan, hrun, hwords⟩ := foldlM_step s hstart
  have hscan : s.zipIdx.foldlM (step s) {} = some scan := hrun
  rw [run, hscan, Option.map_some, hwords]
  rfl

end Scan

/-- The words of a text are the pieces of its maximal runs of alphanumeric characters, cut where new words
begin, in lowercase. A scan finds them without ever looking back in vain. None is empty, together they are
the lowercase forms of the alphanumeric characters, and the Pascal case form is the camel case form with its
first character in uppercase. -/
theorem words_exact (s : String) :
    words s.toList = ((runs (places s.toList)).flatMap pieces).map spelled ∧
    Scan.run s.toList = some (words s.toList) ∧
    [] ∉ words s.toList ∧
    (words s.toList).flatten = (s.toList.filter isAlphanumeric).flatMap lowercase ∧
    (pascalCase s).toList =
      ((camelCase s).toList.take 1).flatMap uppercase ++ (camelCase s).toList.drop 1 := by
  refine ⟨(pieceWords_places s.toList).1.symm, Scan.run_eq s.toList, nil_notMem_words s.toList,
    flatten_words s.toList, ?_⟩
  rw [pascalCase, camelCase, String.toList_ofList, String.toList_ofList, pascalChars_eq]

example : (words "getHTTPServer_v1Api".toList).map String.ofList = ["get", "http", "server", "v1", "api"] := by
  decide +kernel

end SwaggerService.Naming
