import SwaggerService.Command.Disk
import SwaggerService.Proofs.Returns

/-! # Reading what was written

Files give back what was written to them, and reading changes nothing. A disk does so for every path: where
a file stands now no directory can have stood, so all directories on the way to it are still there, and the
path leads to it again. -/

namespace SwaggerService.Command

/-- Files that are not changed by reading and that give back what was written. -/
structure Files.Keeps {σ : Type} (files : Files (StateM σ)) : Prop where
  read : ∀ path s, (files.read path s).2 = s
  write : ∀ path text s, (files.write path text s).1 = .ok () →
    (files.read path (files.write path text s).2).1 = .ok text

namespace Disk

/-- A disk on which a file has some content. -/
def put (d : Disk) (place : List String) (bytes : ByteArray) : Disk :=
  { d with files := (d.files.filter fun file => file.1 != place) ++ [(place, bytes)] }

variable {d : Disk} {place p next : List String} {bytes : ByteArray}

theorem content?_put_self (d : Disk) (place : List String) (bytes : ByteArray) :
    (d.put place bytes).content? place = some bytes := by
  have hothers : (d.files.filter fun file => file.1 != place).find? (fun file => file.1 == place) = none := by
    simp
  simp [content?, put, List.find?_append, hothers]

/-- No other file is there that was not there before. -/
theorem content?_put_of_ne (hne : p ≠ place) (h : d.content? p = none) :
    (d.put place bytes).content? p = none := by
  simp only [content?, put, Option.map_eq_none_iff, List.find?_eq_none, beq_iff_eq] at h ⊢
  intro file hfile
  rcases List.mem_append.mp hfile with hold | hnew
  · exact h file (List.mem_filter.mp hold).1
  · rw [List.mem_singleton.mp hnew]
    exact hne.symm

/-- Every directory still holds a file. -/
theorem isDirectory_put (h : d.isDirectory p = true) : (d.put place bytes).isDirectory p = true := by
  simp only [isDirectory, put, Bool.or_eq_true, List.any_eq_true, Bool.and_eq_true] at h ⊢
  refine h.imp_right fun ⟨file, hfile, hbelow⟩ => ?_
  by_cases hsame : file.1 = place
  · exact ⟨(place, bytes), by simp, hsame ▸ hbelow⟩
  · exact ⟨file, List.mem_append_left _ (List.mem_filter.mpr ⟨hfile, by simpa using hsame⟩), hbelow⟩

theorem enter_eq_ok : d.enter p = .ok () ↔ d.content? p = none ∧ d.isDirectory p = true := by
  unfold enter
  cases d.content? p <;> cases d.isDirectory p <;> simp

/-- A directory can still be entered: the file does not stand in its place. -/
theorem enter_put (hfree : d.isDirectory place = false) (h : d.enter p = .ok ()) :
    (d.put place bytes).enter p = .ok () := by
  obtain ⟨hcontent, hdirectory⟩ := enter_eq_ok.mp h
  have hne : p ≠ place := by
    rintro rfl
    exact Bool.false_ne_true (hfree.symm.trans hdirectory)
  exact enter_eq_ok.mpr ⟨content?_put_of_ne hne hcontent, isDirectory_put hdirectory⟩

theorem follow_put {component : String} (hfree : d.isDirectory place = false)
    (h : d.follow p component = .ok next) : (d.put place bytes).follow p component = .ok next := by
  obtain ⟨_, henter, h⟩ := bind_ok h
  unfold follow
  rw [enter_put hfree henter]
  exact h

theorem foldlM_follow_put {components : List String} (hfree : d.isDirectory place = false)
    (h : components.foldlM d.follow p = .ok next) :
    components.foldlM (d.put place bytes).follow p = .ok next := by
  induction components generalizing p with
  | nil => exact h
  | cons component rest ih =>
    rw [List.foldlM_cons] at h ⊢
    obtain ⟨q, hfollow, h⟩ := bind_ok h
    rw [follow_put hfree hfollow]
    exact ih h

/-- A path that can be a name is followed from where it starts. -/
theorem locate_eq_ok {path : String} {components : List String} : d.locate path components = .ok next ↔
    ¬ path.toList.contains (Char.ofNat 0) ∧ ¬ path.isEmpty ∧ ¬ longestPath < path.utf8ByteSize ∧
      components.foldlM d.follow (start d.here path) = .ok next := by
  unfold locate
  by_cases hnul : path.toList.contains (Char.ofNat 0) = true
  · rw [if_pos hnul]
    exact ⟨nofun, fun h => absurd hnul h.1⟩
  rw [if_neg hnul]
  by_cases hempty : path.isEmpty = true
  · rw [if_pos hempty]
    exact ⟨nofun, fun h => absurd hempty h.2.1⟩
  rw [if_neg hempty]
  by_cases hlong : longestPath < path.utf8ByteSize
  · rw [if_pos hlong]
    exact ⟨nofun, fun h => absurd hlong h.2.2.1⟩
  rw [if_neg hlong]
  exact ⟨fun h => ⟨hnul, hempty, hlong, h⟩, fun h => h.2.2.2⟩

/-- A path leads to the same place. -/
theorem locate_put {path : String} {components : List String} (hfree : d.isDirectory place = false)
    (h : d.locate path components = .ok next) : (d.put place bytes).locate path components = .ok next := by
  obtain ⟨hnul, hempty, hlong, hfollow⟩ := locate_eq_ok.mp h
  exact locate_eq_ok.mpr ⟨hnul, hempty, hlong, foldlM_follow_put hfree hfollow⟩

/-- What a write needs, and what it leaves behind. -/
theorem write_eq_ok {path text : String} {d' : Disk} (h : d.write path text = .ok d') :
    endsOpen path = false ∧ ∃ place, d.locate path (components path) = .ok place ∧
      d.isDirectory place = false ∧ d' = d.put place text.toUTF8 := by
  unfold write at h
  cases hopen : endsOpen path with
  | true =>
    rw [hopen, if_pos rfl] at h
    obtain ⟨parent, -, h⟩ := bind_ok h
    obtain ⟨_, -, h⟩ := bind_ok h
    nomatch h
  | false =>
    rw [hopen, if_neg Bool.false_ne_true] at h
    obtain ⟨place, hlocate, h⟩ := bind_ok h
    cases hfree : d.isDirectory place with
    | true =>
      rw [hfree, if_pos rfl] at h
      nomatch h
    | false =>
      rw [hfree, if_neg Bool.false_ne_true] at h
      exact ⟨rfl, place, hlocate, hfree, (Except.ok.inj h).symm⟩

/-- What was written is read. -/
theorem read_put {path text : String} (hopen : endsOpen path = false)
    (hlocate : d.locate path (components path) = .ok place) (hfree : d.isDirectory place = false) :
    (d.put place text.toUTF8).read path = .ok text := by
  have hplace : (d.put place text.toUTF8).locate path (components path) = .ok place :=
    locate_put hfree hlocate
  have htext : String.fromUTF8? text.toUTF8 = some text := dif_pos text.isValidUTF8
  unfold read
  rw [hopen, if_neg Bool.false_ne_true, List.append_nil, hplace]
  dsimp only [bind, Except.bind]
  rw [content?_put_self]
  dsimp only
  rw [htext]
  rfl

theorem access_keeps : access.Keeps where
  read path d := rfl
  write path text d h := by
    cases hwrite : d.write path text with
    | error fault => simp [access, hwrite] at h
    | ok changed =>
      obtain ⟨hopen, place, hlocate, hfree, rfl⟩ := write_eq_ok hwrite
      simp only [access, hwrite]
      exact read_put hopen hlocate hfree

end Disk

end SwaggerService.Command
