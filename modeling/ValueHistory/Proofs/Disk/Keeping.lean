import ValueHistory.Disk
import ValueHistory.Proofs.Disk.Writing
import ValueHistory.Proofs.OrderedMap.Entries

/-! Databases kept on a disk. What is kept where it was found leaves the disk as it is, so that a
database that is not changed is not written either.
-/

namespace ValueHistory.Disk

variable {disk : Disk} {database : Database} {path : Path} {text : String}

/-- What stands at a path can be put there again. -/
theorem put_of_node? {node : DiskNode} (below : path ≠ []) (stands : disk.node? path = some node)
    : disk.put path node = disk := by
  have known : disk.nodes.get? path = some node := by simpa [node?, below] using stands
  rw [put, OrderedMap.insert_of_get? known]

/-- A database that was found at a path is kept there already, unless nobody has written to it:
there need not be a file of it yet then.
-/
theorem keepAt_of_databaseAt {access : Access}
    (found : disk.databaseAt path access = .ok database) (written : database ≠ .blank)
    : disk.keepAt path database = disk := by
  rw [databaseAt] at found
  rw [keepAt]
  cases leads : disk.walk [] path with
  | missing => rfl
  | barred => rfl
  | free _ =>
      simp only [leads] at found
      split at found <;> cases found
      exact absurd rfl written
  | found reached =>
      simp only [leads] at found ⊢
      cases stands : disk.node? reached with
      | none =>
          rw [stands] at found
          cases found
      | some node =>
          simp only [stands] at found
          cases node with
          | directory => cases found
          | file content =>
              dsimp only at found
              split at found <;> cases found
              exact absurd rfl written
          | database kept =>
              cases found
              have below : reached ≠ [] := by
                rintro rfl
                cases stands
              exact put_of_node? below stands

/-- A database is not looked at before it may be used, and is as it was found if it may be changed.
-/
theorem eq_of_under {access : Access} (changed : access ≠ .reading) {used : Database}
    (allowed : database.under access = .ok used) : used = database := by
  rw [Database.under, if_pos changed] at allowed
  exact (Except.ok.inj allowed).symm

/-- A database that is kept where a text pointed to it leaves the disk as it is. -/
theorem saveDatabase_of_databaseOf (found : disk.databaseOf text = .ok database)
    (written : database ≠ .blank)
    : disk.saveDatabase text database = disk := by
  rw [databaseOf] at found
  rw [saveDatabase]
  cases place : Location.ofText? text with
  | none => rfl
  | some location =>
      cases location with
      | nowhere => rfl
      | file name access =>
          simp only [place] at found ⊢
          cases leads : disk.databasePath? name with
          | none => rfl
          | some path =>
              simp only [leads] at found ⊢
              split
              · rfl
              · next changed =>
                  cases stands : disk.databaseAt path access with
                  | error failure =>
                      rw [stands] at found
                      cases found
                  | ok kept =>
                      rw [stands] at found
                      cases eq_of_under changed found
                      exact keepAt_of_databaseAt stands written

/-- A database that is found on a disk is the one that stands there afterwards. -/
theorem databaseOf_of_openDatabase {opened : Disk}
    (found : disk.openDatabase text = (.ok database, opened))
    : opened.databaseOf text = .ok database := by
  rw [openDatabase] at found
  cases makes : disk.makeParent text with
  | mk made afterwards =>
      rw [makes] at found
      obtain ⟨read, rfl⟩ := Prod.mk.inj found
      cases made with
      | true => exact read
      | false => cases read

end ValueHistory.Disk
