import ValueHistory.Disk
import ValueHistory.Proofs.OrderedMap.Entries

/-! Plain files read back. Whether a file can be written in a place does not depend on its content,
and what is written is what is read there afterwards.
-/

namespace ValueHistory

/-- A place at a path, whether anything stands there or not. -/
def Place.IsAt (place : Place) (path : Path) : Prop :=
  place = .found path ∨ place = .free path

theorem Place.isAt_found {found path : Path} : (Place.found found).IsAt path ↔ found = path := by
  simp [Place.IsAt]

theorem Place.isAt_free {free path : Path} : (Place.free free).IsAt path ↔ free = path := by
  simp [Place.IsAt]

theorem Place.not_isAt_missing {path : Path} : ¬Place.missing.IsAt path := by
  simp [Place.IsAt]

theorem Place.not_isAt_barred {path : Path} : ¬Place.barred.IsAt path := by
  simp [Place.IsAt]

namespace Disk

variable {disk : Disk} {path : Path} {content : Bytes} {text : String}

/-- What stands at a path after a file has been put at one: nothing else has changed. -/
theorem node?_put (below : path ≠ []) (node : DiskNode) (other : Path)
    : (disk.put path node).node? other = if other = path then some node else disk.node? other := by
  unfold node? put
  split
  · next root =>
      have different : other ≠ path := by
        intro same
        exact below (same.symm.trans (List.isEmpty_iff.mp root))
      rw [if_neg different]
  · exact OrderedMap.get?_insert disk.nodes path other node

theorem ne_nil_of_node? (file : disk.node? path ≠ some .directory) : path ≠ [] := by
  rintro rfl
  exact file rfl

/-- The way to a place where no directory stands leads to the file that is put there, by induction
on the names on it: a directory is passed at each of them but the last.
-/
theorem walk_put (file : disk.node? path ≠ some .directory) {names : List String} {start : Path}
    (leads : (disk.walk start names).IsAt path)
    : (disk.put path (.file content)).walk start names = .found path := by
  have below := ne_nil_of_node? file
  induction names generalizing start with
  | nil => exact congrArg Place.found (Place.isAt_found.mp leads)
  | cons name names ih =>
      rw [walk] at leads ⊢
      split at leads
      · next up =>
          rw [if_pos up]
          exact ih leads
      · next down =>
          rw [if_neg down]
          split at leads
          · exact absurd leads Place.not_isAt_barred
          · next fits =>
              rw [if_neg fits, node?_put below]
              split at leads
              · next passed =>
                  have different : start ++ [name] ≠ path := by
                    intro same
                    rw [same] at passed
                    exact file passed
                  rw [if_neg different, passed]
                  exact ih leads
              · next stands =>
                  split at leads
                  · next last =>
                      have same := Place.isAt_found.mp leads
                      rw [if_pos same, same]
                      exact if_pos last
                  · exact absurd leads Place.not_isAt_barred
              · split at leads
                · next last =>
                    have same := Place.isAt_free.mp leads
                    rw [if_pos same, same]
                    exact if_pos last
                · exact absurd leads Place.not_isAt_missing

/-- Nothing stands at a free place, by induction on the names on the way to it. -/
theorem node?_of_walk_free {names : List String} {start : Path}
    (free : disk.walk start names = .free path)
    : disk.node? path = none := by
  induction names generalizing start with
  | nil => cases free
  | cons name names ih =>
      rw [walk] at free
      split at free
      · exact ih free
      · split at free
        · cases free
        · split at free
          · exact ih free
          · split at free
            · cases free
            · cases free
          · next nothing =>
              split at free
              · cases free
                exact nothing
              · cases free

theorem isDirectory_iff : disk.isDirectory path = true ↔ disk.node? path = some .directory := by
  unfold isDirectory
  split
  · next passed => simp [passed]
  · next other => simpa using other

theorem isDirectory_eq_false (file : disk.node? path ≠ some .directory)
    : disk.isDirectory path = false := by
  rw [Bool.eq_false_iff]
  exact fun directory => file (isDirectory_iff.mp directory)

theorem walk_isAt_of_locate (leads : (disk.locate text).IsAt path)
    : isPath text = true ∧ (disk.walk (disk.start text) (PathName.names text)).IsAt path := by
  unfold locate at leads
  split at leads
  · next isPath =>
      refine ⟨isPath, ?_⟩
      split at leads
      · next found =>
          split at leads
          · exact absurd leads Place.not_isAt_barred
          · rw [found]
            exact leads
      · exact leads
  · exact absurd leads Place.not_isAt_barred

theorem node?_of_locate_free (free : disk.locate text = .free path) : disk.node? path = none := by
  obtain ⟨isPath, leads⟩ := walk_isAt_of_locate (.inr free)
  rcases leads with found | free'
  · rw [locate, if_pos isPath, found] at free
    simp only at free
    split at free
    · cases free
    · cases free
  · exact node?_of_walk_free free'

/-- A text that is not the path of a directory leads to the file that is put where it leads. -/
theorem locate_put (file : disk.node? path ≠ some .directory)
    (leads : (disk.locate text).IsAt path) (plain : PathName.meansDirectory text = false)
    : (disk.put path (.file content)).locate text = .found path := by
  obtain ⟨isPath, leads⟩ := walk_isAt_of_locate leads
  have found
      : (disk.put path (.file content)).walk ((disk.put path (.file content)).start text)
          (PathName.names text)
        = .found path :=
    walk_put file leads
  rw [locate, if_pos isPath, found]
  simp [plain]

/-- A file is found only where a text does not mean a directory. -/
theorem meansDirectory_of_locate (found : disk.locate text = .found path)
    (file : disk.node? path ≠ some .directory)
    : PathName.meansDirectory text = false := by
  have other := isDirectory_eq_false file
  unfold locate at found
  split at found
  · split at found
    · split at found
      · cases found
      · next passed =>
          cases found
          simpa [other] using passed
    · next elsewhere => exact absurd found (elsewhere path)
  · cases found

/-- A place where a plain file can be written. -/
def IsWritable (disk : Disk) (text : String) : Prop :=
  ∃ content, (disk.write? text content).isSome

/-- What writing a file does: once its directory has been made, the file is put at a place that no
directory stands at.
-/
theorem write?_eq_some_iff {saved : Disk}
    : disk.write? text content = some saved
      ↔ ∃ made path,
          disk.makeParent text = (true, made)
          ∧ made.node? path ≠ some .directory
          ∧ (made.locate text).IsAt path
          ∧ PathName.meansDirectory text = false
          ∧ saved = made.put path (.file content) := by
  unfold write?
  constructor
  · intro written
    split at written
    · cases written
    · next made makes =>
        split at written
        · next path found =>
            split at written
            · cases written
            · next other =>
                have file : made.node? path ≠ some .directory :=
                  fun directory => other (isDirectory_iff.mpr directory)
                exact ⟨made, path, makes, file, .inl found, meansDirectory_of_locate found file,
                  (Option.some.inj written).symm⟩
        · next path free =>
            split at written
            · cases written
            · next plain =>
                have file : made.node? path ≠ some .directory := by
                  rw [node?_of_locate_free free]
                  exact nofun
                exact ⟨made, path, makes, file, .inr free, by simpa using plain,
                  (Option.some.inj written).symm⟩
        · cases written
  · rintro ⟨made, path, makes, file, leads, plain, rfl⟩
    have other := isDirectory_eq_false file
    rw [makes]
    rcases leads with found | free
    · simp [found, other]
    · simp [free, plain]

/-- Whether a place is writable is told without a content: its directory can be made, and it is free
then or has a file, and no text that means a directory leads to it.
-/
theorem isWritable_iff
    : disk.IsWritable text
      ↔ ∃ made path,
          disk.makeParent text = (true, made)
          ∧ made.node? path ≠ some .directory
          ∧ (made.locate text).IsAt path
          ∧ PathName.meansDirectory text = false := by
  constructor
  · intro writable
    obtain ⟨content, written⟩ := writable
    obtain ⟨saved, written⟩ := Option.isSome_iff_exists.mp written
    obtain ⟨made, path, makes, file, leads, plain, _⟩ := write?_eq_some_iff.mp written
    exact ⟨made, path, makes, file, leads, plain⟩
  · intro place
    obtain ⟨made, path, makes, file, leads, plain⟩ := place
    have written : disk.write? text [] = some (made.put path (.file [])) :=
      write?_eq_some_iff.mpr ⟨made, path, makes, file, leads, plain, rfl⟩
    exact ⟨[], by rw [written]; rfl⟩

/-- Any content can be written in a writable place, and is read there afterwards. -/
theorem exists_write?_of_isWritable (writable : disk.IsWritable text) (content : Bytes)
    : ∃ saved, disk.write? text content = some saved ∧ saved.read? text = some content := by
  obtain ⟨made, path, makes, file, leads, plain⟩ := isWritable_iff.mp writable
  refine ⟨made.put path (.file content), ?_, ?_⟩
  · exact write?_eq_some_iff.mpr ⟨made, path, makes, file, leads, plain, rfl⟩
  · have stands : (made.put path (.file content)).node? path = some (.file content) := by
      rw [node?_put (ne_nil_of_node? file), if_pos rfl]
    rw [read?, at?, locate_put file leads plain]
    simp only [stands]

end Disk

end ValueHistory
