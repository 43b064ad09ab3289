import SwaggerService.Load
import SwaggerService.Proofs.Citations

/-! # Distinct keys

A value that is read from a text has no object with the same key twice: of the entries with one key, the
last value that was written is kept at the first place. In such an object the value of a key does not depend
on the order of the entries. -/

namespace SwaggerService

/-! ## Entries -/

namespace Entries

variable {α : Type} {key : String} {value : α} {entries entries' : List (String × α)}

theorem get?_of_mem (hd : (entries.map (·.1)).Nodup) (h : (key, value) ∈ entries) :
    get? key entries = some value := by
  induction entries with
  | nil => cases h
  | cons entry rest ih =>
    obtain ⟨k, v⟩ := entry
    obtain ⟨hnot, hrest⟩ := List.nodup_cons.mp hd
    rcases List.mem_cons.mp h with heq | h
    · cases heq
      exact if_pos (beq_self_eq_true key)
    · have hne : ¬ (k == key) = true := by
        intro heq
        rw [← beq_iff_eq.mp heq] at h
        exact hnot (List.mem_map.mpr ⟨_, h, rfl⟩)
      rw [get?, if_neg hne]
      exact ih hrest h

theorem get?_eq_some (hd : (entries.map (·.1)).Nodup) :
    get? key entries = some value ↔ (key, value) ∈ entries := ⟨mem_of_get?, get?_of_mem hd⟩

theorem nodup_perm (hp : entries'.Perm entries) (hd : (entries.map (·.1)).Nodup) :
    (entries'.map (·.1)).Nodup := (hp.map _).nodup_iff.mpr hd

/-- Where keys are distinct, the order of entries does not matter. -/
theorem get?_perm (hp : entries'.Perm entries) (hd : (entries.map (·.1)).Nodup) (key : String) :
    get? key entries' = get? key entries := by
  refine Option.ext fun value => ?_
  rw [get?_eq_some hd, get?_eq_some (nodup_perm hp hd), hp.mem_iff]

theorem put_of_notMem (h : key ∉ entries.map (·.1)) :
    put key value entries = entries ++ [(key, value)] := by
  induction entries with
  | nil => rfl
  | cons entry rest ih =>
    obtain ⟨hne, hrest⟩ := not_or.mp (List.mem_cons.not.mp h)
    have hkey : ¬ (entry.1 == key) = true := by simpa using fun heq => hne heq.symm
    rw [put, if_neg hkey, ih hrest]
    rfl

theorem ofList_of_nodup (hd : (entries.map (·.1)).Nodup) : ofList entries = entries := by
  have hfold : ∀ rest done : List (String × α), ((done ++ rest).map (·.1)).Nodup →
      rest.foldl (fun done entry => put entry.1 entry.2 done) done = done ++ rest := by
    intro rest
    induction rest with
    | nil => exact fun done _ => (List.append_nil done).symm
    | cons entry rest ih =>
      intro done hd
      have hnot : entry.1 ∉ done.map (·.1) := by
        rw [List.map_append, List.nodup_append] at hd
        exact fun hmem => hd.2.2 _ hmem _ List.mem_cons_self rfl
      rw [List.foldl_cons, put_of_notMem hnot, ih _ (by simpa using hd), List.append_assoc]
      rfl
  exact hfold entries [] hd

end Entries

/-! ## Reading entries -/

namespace Decode

variable {α : Type} {decode : Decoder α} {fields : List (String × Json)} {entries : List (String × α)}

/-- A written entry is read as another one. -/
def ReadsEntry (decode : Decoder α) (field : String × Json) (entry : String × α) : Prop :=
  entry.1 = field.1 ∧ decode field.2 = .ok entry.2

theorem values_eq_ok : values decode fields = .ok entries ↔ List.Forall₂ (ReadsEntry decode) fields entries := by
  constructor
  · intro h
    induction fields generalizing entries with
    | nil =>
      cases h
      exact .nil
    | cons field rest ih =>
      obtain ⟨a, ha, h⟩ := bind_ok h
      obtain ⟨others, hothers, h⟩ := bind_ok h
      cases h
      exact .cons ⟨rfl, ha⟩ (ih hothers)
  · intro h
    induction h with
    | nil => rfl
    | cons hentry _ ih =>
      obtain ⟨hkey, hread⟩ := hentry
      simp only [values, hread, ih, ← hkey]
      rfl

theorem keys_of_reads (h : List.Forall₂ (ReadsEntry decode) fields entries) :
    entries.map (·.1) = fields.map (·.1) := by
  induction h with
  | nil => rfl
  | cons hentry _ ih => rw [List.map_cons, List.map_cons, ih, hentry.1]

/-- What was written, if anything, is read as what was found. -/
def ReadsFound (decode : Decoder α) (written : Option Json) (found : Option α) : Prop :=
  match written with
  | none => found = none
  | some v => ∃ a, decode v = .ok a ∧ found = some a

theorem get?_of_reads (h : List.Forall₂ (ReadsEntry decode) fields entries) (name : String) :
    ReadsFound decode (Entries.get? name fields) (Entries.get? name entries) := by
  induction h with
  | nil => rfl
  | @cons field entry _ _ hentry _ ih =>
    obtain ⟨hkey, hread⟩ := hentry
    by_cases hname : (field.1 == name) = true
    · simp only [Entries.get?, hkey, if_pos hname]
      exact ⟨entry.2, hread, rfl⟩
    · simp only [Entries.get?, hkey, if_neg hname]
      exact ih

/-- Where keys are distinct, an object is read entry by entry. -/
theorem map_eq_ok (hd : (fields.map (·.1)).Nodup) :
    map decode (.object fields) = .ok entries ↔ List.Forall₂ (ReadsEntry decode) fields entries := by
  rw [← values_eq_ok]
  constructor
  · intro h
    obtain ⟨read, hread, rfl⟩ := map_ok h
    have hkeys : (read.map (·.1)).Nodup := by
      rw [keys_of_reads (values_eq_ok.mp hread)]
      exact hd
    rw [Entries.ofList_of_nodup hkeys]
    exact hread
  · intro h
    have hkeys : (entries.map (·.1)).Nodup := by
      rw [keys_of_reads (values_eq_ok.mp h)]
      exact hd
    rw [map, h]
    exact congrArg Except.ok (Entries.ofList_of_nodup hkeys)

end Decode

/-! ## Values -/

namespace Json

mutual

/-- No object in a value has the same key twice. -/
def Distinct : Json → Prop
  | .list items => DistinctItems items
  | .object fields => (fields.map (·.1)).Nodup ∧ DistinctFields fields
  | .null | .bool _ | .number _ | .string _ => True

def DistinctItems : List Json → Prop
  | [] => True
  | v :: rest => v.Distinct ∧ DistinctItems rest

def DistinctFields : List (String × Json) → Prop
  | [] => True
  | (_, v) :: rest => v.Distinct ∧ DistinctFields rest

end

theorem distinctItems_iff {items : List Json} : DistinctItems items ↔ ∀ v ∈ items, v.Distinct := by
  induction items with
  | nil => simp [DistinctItems]
  | cons v rest ih => rw [DistinctItems, ih, List.forall_mem_cons]

theorem distinctFields_iff {fields : List (String × Json)} :
    DistinctFields fields ↔ ∀ entry ∈ fields, entry.2.Distinct := by
  induction fields with
  | nil => simp [DistinctFields]
  | cons entry rest ih => rw [DistinctFields, ih, List.forall_mem_cons]

theorem distinct_list {items : List Json} : (list items).Distinct ↔ ∀ v ∈ items, v.Distinct :=
  distinctItems_iff

theorem distinct_object {fields : List (String × Json)} :
    (object fields).Distinct ↔ (fields.map (·.1)).Nodup ∧ ∀ entry ∈ fields, entry.2.Distinct :=
  and_congr_right fun _ => distinctFields_iff

/-! ## Reading JSON -/

/-- The value of a token, if it has one, has distinct keys. -/
def Token.Distinct (t : Token) : Prop := ∀ v, t = .scalar v → v.Distinct

theorem word_distinct {value : Json} (hv : value.Distinct) (used : Nat) (letters cs : List Char) :
    (word value used letters cs).1.Distinct := by
  induction letters generalizing used cs with
  | nil =>
    rintro _ ⟨⟩
    exact hv
  | cons letter rest ih =>
    cases cs with
    | nil =>
      rw [word]
      exact fun _ => nofun
    | cons c cs =>
      rw [word]
      split
      · exact ih _ _
      · exact fun _ => nofun

theorem lexeme_distinct (c : Char) (rest : List Char) : (lexeme c rest).1.Distinct := by
  -- Only words and numbers have a value.
  fun_cases lexeme c rest
  all_goals first
    | (refine word_distinct ?_ _ _ _; trivial)
    | rintro _ ⟨⟩ <;> trivial

theorem tokens_distinct (cs : List Char) : ∀ t ∈ tokens cs, t.Distinct := by
  induction cs using tokens.induct with
  | case1 =>
    rw [tokens]
    exact List.forall_mem_singleton.mpr fun _ => nofun
  | case2 c rest hblank ih =>
    rw [tokens, if_pos hblank]
    exact ih
  | case3 c rest hblank quoted fault used hlexeme =>
    rw [tokens, if_neg hblank, hlexeme]
    exact List.forall_mem_singleton.mpr fun _ => nofun
  | case4 c rest hblank token used hnot hlexeme ih =>
    have hfirst := lexeme_distinct c rest
    rw [hlexeme] at hfirst
    rw [tokens, if_neg hblank]
    simp only [hlexeme]
    exact List.forall_mem_cons.mpr ⟨hfirst, ih⟩

/-- What is open has distinct keys so far. -/
def Frame.Distinct : Frame → Prop
  | .list items => ∀ v ∈ items, v.Distinct
  | .field fields _ => (object fields).Distinct

namespace Reading

/-- All that has been read and is not lost, as lists and objects that are open. -/
def frames : Reading → List Frame
  | .value stack | .firstItem stack | .firstKey stack => stack
  | .nextItem items stack | .itemEnd items stack => .list items :: stack
  | .nextKey fields stack | .fieldEnd fields stack => .field fields "" :: stack
  | .colon fields key stack => .field fields key :: stack
  | .complete v => [.list [v]]

/-- All that has been read has distinct keys. -/
def Distinct (r : Reading) : Prop := ∀ frame ∈ r.frames, frame.Distinct

theorem give_distinct {v : Json} {stack : List Frame} (hv : v.Distinct)
    (hs : ∀ frame ∈ stack, frame.Distinct) : (give v stack).Distinct := by
  cases stack with
  | nil => exact List.forall_mem_singleton.mpr (List.forall_mem_singleton.mpr hv)
  | cons frame stack =>
    obtain ⟨hframe, hrest⟩ := List.forall_mem_cons.mp hs
    cases frame with
    | list items => exact List.forall_mem_cons.mpr ⟨List.forall_mem_cons.mpr ⟨hv, hframe⟩, hrest⟩
    | field fields key =>
      obtain ⟨hkeys, hvalues⟩ := distinct_object.mp hframe
      have hput : (object (Entries.put key v fields)).Distinct :=
        distinct_object.mpr ⟨Entries.nodup_put hkeys, Entries.forall_put hv hvalues⟩
      exact List.forall_mem_cons.mpr ⟨hput, hrest⟩

theorem start_distinct {limit : Nat} {stack : List Frame} {t : Token} {r : Reading} (ht : t.Distinct)
    (hs : ∀ frame ∈ stack, frame.Distinct) (h : start limit stack t = .ok r) : r.Distinct := by
  cases t with
  | scalar v =>
    cases h
    exact give_distinct (ht v rfl) hs
  | string text =>
    cases h
    exact give_distinct trivial hs
  | listOpen | objectOpen =>
    dsimp only [start] at h
    split at h
    · cases h
    · cases h
      exact hs
  | listClose | objectClose | comma | colon | broken | finish => cases h

theorem key_distinct {fields : List (String × Json)} {stack : List Frame} {t : Token} {r : Reading}
    (hf : (object fields).Distinct) (hs : ∀ frame ∈ stack, frame.Distinct)
    (h : key fields stack t = .ok r) : r.Distinct := by
  unfold key at h
  split at h
  · cases h
    exact List.forall_mem_cons.mpr ⟨hf, hs⟩
  · cases h
  · cases h

theorem distinct_empty : (object []).Distinct := distinct_object.mpr ⟨List.nodup_nil, List.forall_mem_nil _⟩

theorem step_distinct {limit : Nat} {r r' : Reading} {t : Token} (ht : t.Distinct) (hr : r.Distinct)
    (h : step limit r t = .ok r') : r'.Distinct := by
  have hlist : ∀ {items : List Json} {stack : List Frame},
      (∀ frame ∈ Frame.list items :: stack, frame.Distinct) →
        (list items.reverse).Distinct ∧ ∀ frame ∈ stack, frame.Distinct := by
    intro items stack hframes
    obtain ⟨hitems, hstack⟩ := List.forall_mem_cons.mp hframes
    exact ⟨distinct_list.mpr fun v hv => hitems v (List.mem_reverse.mp hv), hstack⟩
  have hobject : ∀ {fields : List (String × Json)} {key : String} {stack : List Frame},
      (∀ frame ∈ Frame.field fields key :: stack, frame.Distinct) →
        (object fields).Distinct ∧ ∀ frame ∈ stack, frame.Distinct :=
    fun hframes => List.forall_mem_cons.mp hframes
  unfold step at h
  split at h
  case h_1 stack => exact start_distinct ht hr h
  case h_2 stack => cases h; exact give_distinct trivial hr
  case h_4 stack _ _ =>
    have hempty : (Frame.list []).Distinct := List.forall_mem_nil _
    exact start_distinct ht (List.forall_mem_cons.mpr ⟨hempty, hr⟩) h
  case h_6 items stack _ => exact start_distinct ht hr h
  case h_7 items stack => cases h; exact give_distinct (hlist hr).1 (hlist hr).2
  case h_8 items stack => cases h; exact hr
  case h_11 stack => cases h; exact give_distinct distinct_empty hr
  case h_13 stack _ _ => exact key_distinct distinct_empty hr h
  case h_16 fields stack _ _ => exact key_distinct (hobject hr).1 (hobject hr).2 h
  case h_17 fields key stack => cases h; exact hr
  case h_20 fields stack => cases h; exact give_distinct (hobject hr).1 (hobject hr).2
  case h_21 fields stack => cases h; exact hr
  case h_24 v => cases h; exact hr
  all_goals cases h

end Reading

/-- A value that is read from JSON has distinct keys. -/
theorem read_distinct {limit : Nat} {text : String} {v : Json} (h : read limit text = .ok v) :
    v.Distinct := by
  have hfold : ∀ (ts : List Token) (first last : Reading), (∀ t ∈ ts, t.Distinct) → first.Distinct →
      ts.foldlM (Reading.step limit) first = .ok last → last.Distinct := by
    intro ts
    induction ts with
    | nil =>
      intro first last _ hfirst h
      cases h
      exact hfirst
    | cons t rest ih =>
      intro first last hts hfirst h
      obtain ⟨ht, hrest⟩ := List.forall_mem_cons.mp hts
      rw [List.foldlM_cons] at h
      obtain ⟨next, hnext, h⟩ := bind_ok h
      exact ih next last hrest (Reading.step_distinct ht hfirst hnext) h
  obtain ⟨last, hlast, h⟩ := bind_ok h
  have hstart : (Reading.value []).Distinct := List.forall_mem_nil _
  have hdistinct := hfold _ _ last (tokens_distinct _) hstart hlast
  split at h
  · cases h
    exact List.forall_mem_singleton.mp (List.forall_mem_singleton.mp hdistinct)
  · cases h

end Json

/-! ## Reading YAML -/

namespace Yaml

theorem float?_distinct {text : String} : ∀ v ∈ float? text, v.Distinct := by
  intro v h
  dsimp only [float?] at h
  split at h
  · cases h
  · split at h
    · cases h
      trivial
    · obtain ⟨x, _, rfl⟩ := Option.map_eq_some_iff.mp h
      trivial

theorem integerValue?_distinct {text : String} {value : Option Json}
    (h : integerValue? text = some value) : ∀ v ∈ value, v.Distinct := by
  obtain ⟨n, _, h⟩ := Option.bind_eq_some_iff.mp h
  rintro v ⟨⟩
  split at h
  · cases h
    trivial
  · split at h
    · cases h
    · cases h

theorem plainValue?_distinct {text : String} : ∀ v ∈ plainValue? text, v.Distinct := by
  intro v h
  unfold plainValue? at h
  split at h
  · cases h
    trivial
  · split at h
    · cases h
      trivial
    · split at h
      · next value hvalue => exact integerValue?_distinct hvalue v h
      · split at h
        · cases h
          trivial
        · cases hf : float? text with
          | none =>
            rw [hf] at h
            cases h
            trivial
          | some x =>
            rw [hf] at h
            cases h
            exact float?_distinct _ hf

theorem scalarValue?_distinct {tag : Option (List UInt8)} {plain : Bool} {text : String} :
    ∀ v ∈ scalarValue? tag plain text, v.Distinct := by
  intro v h
  have htext : ∀ v ∈ some (Json.string text), v.Distinct := by
    rintro v ⟨⟩
    trivial
  unfold scalarValue? at h
  split at h
  · split at h
    · exact plainValue?_distinct v h
    · exact htext v h
  · split at h
    · obtain ⟨b, _, rfl⟩ := Option.map_eq_some_iff.mp h
      trivial
    split at h
    · cases hi : integerValue? text with
      | none => rw [hi] at h; cases h
      | some value =>
        rw [hi] at h
        exact integerValue?_distinct hi v h
    split at h
    · exact float?_distinct v h
    split at h
    · split at h
      · cases h
        trivial
      · cases h
    split at h
    · split at h
      · cases h
      · split at h
        · exact plainValue?_distinct v h
        · exact htext v h
    · exact htext v h

/-- Whatever a computation gives has a property. -/
def Following.Gives {α : Type} (m : Following α) (P : α → Prop) : Prop :=
  ∀ n a n', m n = some (a, n') → P a

namespace Following

variable {α β : Type} {P : α → Prop} {Q : β → Prop}

theorem Gives.bind {m : Following α} {f : α → Following β} (hm : m.Gives P)
    (hf : ∀ a, P a → (f a).Gives Q) : (m >>= f).Gives Q := by
  intro n b n' h
  obtain ⟨⟨a, mid⟩, ha, hb⟩ := Option.bind_eq_some_iff.mp h
  exact hf a (hm n a mid ha) mid b n' hb

theorem Gives.pure {a : α} (h : P a) : (Pure.pure a : Following α).Gives P := by
  rintro n b n' ⟨⟩
  exact h

theorem Gives.any (m : Following α) : m.Gives fun _ => True := fun _ _ _ _ => trivial

theorem Gives.mapM {f : α → Following β} (hf : ∀ a, (f a).Gives Q) (as : List α) :
    (as.mapM f).Gives fun bs => ∀ b ∈ bs, Q b := by
  induction as with
  | nil =>
    rw [List.mapM_nil]
    exact .pure (List.forall_mem_nil _)
  | cons a rest ih =>
    rw [List.mapM_cons]
    exact (hf a).bind fun b hb => ih.bind fun bs hbs => .pure (List.forall_mem_cons.mpr ⟨hb, hbs⟩)

end Following

open Following

theorem Tree.scalar_distinct (node : Node) : (Tree.scalar node).Gives Json.Distinct := by
  intro n v n' h
  cases node with
  | scalar tag plain text =>
    obtain ⟨w, hw, h⟩ := Option.bind_eq_some_iff.mp h
    cases h
    exact scalarValue?_distinct _ hw
  | aliasTo | sequence | mapping => cases h

theorem Tree.value_distinct (t : Tree) (room : Nat) (node : Node) :
    (t.value room node).Gives Json.Distinct := by
  induction room generalizing node with
  | zero => exact (Gives.any _).bind fun node _ => Tree.scalar_distinct node
  | succ room ih =>
    refine (Gives.any _).bind fun node _ => ?_
    split
    · exact (Gives.mapM ih _).bind fun vs hvs => .pure (Json.distinct_list.mpr hvs)
    · refine (Gives.mapM (Q := fun entry => entry.2.Distinct) (fun entry => ?_) _).bind fun fields hf => ?_
      · exact (Gives.any _).bind fun key _ => (ih entry.2).bind fun v hv => .pure hv
      · exact .pure (Json.distinct_object.mpr ⟨Entries.nodup_ofList fields, Entries.forall_ofList hf⟩)
    · exact Tree.scalar_distinct _

/-- A value that is read from YAML has distinct keys. -/
theorem parse_distinct {text : String} {v : Json} (h : parse text = some v) : v.Distinct := by
  obtain ⟨cs, _, h⟩ := Option.bind_eq_some_iff.mp h
  obtain ⟨ts, _, h⟩ := Option.bind_eq_some_iff.mp h
  obtain ⟨events, _, h⟩ := Option.bind_eq_some_iff.mp h
  split at h
  · cases h
    trivial
  · obtain ⟨t, _, h⟩ := Option.bind_eq_some_iff.mp h
    obtain ⟨⟨w, n⟩, hw, hv⟩ := Option.map_eq_some_iff.mp h
    cases hv
    exact t.value_distinct _ _ _ _ _ hw

end Yaml

/-- Every value that a document is loaded from has distinct keys, in either format. -/
theorem Format.read_distinct {format : Format} {text : String} {v : Json}
    (h : format.read text = .ok v) : v.Distinct := by
  cases format with
  | json => exact Json.read_distinct (Decode.mapError_ok h)
  | yaml =>
    unfold read at h
    dsimp only at h
    split at h
    · next w hw =>
      cases h
      exact Yaml.parse_distinct hw
    · cases h

end SwaggerService
