import Herbarium.Disk
import Herbarium.Proofs.Outcome

/-!
Opening a database again.

To open a database may make directories and the database itself. Directories are never taken away again, so a path that
led to a place leads there on every later disk (`placeOf_mono`). Therefore a database that was opened opens again by the
same path, as the same handle and without a change of the disk, also after it was changed through its handle
(`openPath_again`, `openPath_write`).
-/

namespace Herbarium

open Outcome

namespace Disk

variable {d d' : Disk} {p q : Place} {path : List String}

/-- Whether every directory of a disk is a directory of another one. -/
def Within (d d' : Disk) : Prop := ∀ p, d.node? p = some .directory → d'.node? p = some .directory

theorem Within.refl (d : Disk) : d.Within d := fun _ h => h

theorem Within.trans {d'' : Disk} (h : d.Within d') (h' : d'.Within d'') : d.Within d'' := fun p hp => h' p (h p hp)

/-! ## What stands at a place -/

/-- A place that is no directory is none of the roots. -/
theorem not_root (h : d.node? p ≠ some .directory) : ¬ (p = [] ∨ p = ["/"]) := by
  intro hroot
  exact h (by rw [node?, if_pos hroot])

theorem node?_put (hp : ¬ (p = [] ∨ p = ["/"])) (n : Node) : (d.put p n).node? p = some n := by
  rw [node?, if_neg hp]
  simp [put]

theorem node?_put_of_ne (h : q ≠ p) (n : Node) : (d.put p n).node? q = d.node? q := by
  have hpq : (p == q) = false := by simpa using h.symm
  have hfilter : (d.entries.filter fun e => e.1 != p).find? (fun e => e.1 == q) =
      d.entries.find? fun e => e.1 == q := by
    rw [List.find?_filter]
    congr 1
    funext e
    by_cases he : e.1 = q
    · simp [he, h]
    · simp [he]
  rw [node?, node?, put]
  simp only [List.find?_cons, hpq, hfilter]

/-- Something that takes no directory's place keeps all directories. -/
theorem within_put (h : d.node? p ≠ some .directory) (n : Node) : d.Within (d.put p n) := by
  intro q hq
  by_cases hqp : q = p
  · exact absurd (hqp ▸ hq) h
  · rw [node?_put_of_ne hqp, hq]

/-! ## Directories -/

theorem placeOf_mono (h : d.Within d') {start : Place} (hp : d.placeOf start path = .ok p) :
    d'.placeOf start path = .ok p := by
  induction path generalizing start with
  | nil => exact hp
  | cons name rest ih =>
    rw [placeOf] at hp ⊢
    cases hnode : d.node? start with
    | none =>
      rw [hnode] at hp
      cases hp
    | some n =>
      rw [hnode] at hp
      cases n with
      | directory =>
        rw [h start hnode]
        -- the step to the next name is one and the same on both disks
        by_cases hup : name = ".."
        · simp only [if_pos hup] at hp ⊢
          exact ih hp
        · by_cases hlong : 255 < name.utf8ByteSize
          · simp only [if_neg hup, if_pos hlong] at hp
            cases hp
          · simp only [if_neg hup, if_neg hlong] at hp ⊢
            exact ih hp
      | file content => cases hp
      | database db => cases hp

theorem isDirectory_iff : d.isDirectory path = true ↔ ∃ p, d.placeOf [] path = .ok p ∧ d.node? p = some .directory := by
  rw [isDirectory]
  cases d.placeOf [] path with
  | error f => simp
  | ok p =>
    cases hnode : d.node? p with
    | none => simp [hnode]
    | some n => cases n <;> simp [hnode]

theorem isDirectory_mono (h : d.Within d') (hd : d.isDirectory path = true) : d'.isDirectory path = true := by
  obtain ⟨p, hp, hnode⟩ := isDirectory_iff.mp hd
  exact isDirectory_iff.mpr ⟨p, placeOf_mono h hp, h p hnode⟩

theorem makeDirectory_ok (h : d.makeDirectory path = .ok d') : d.Within d' ∧ d'.isDirectory path = true := by
  obtain ⟨p, hp, h⟩ := bind_eq_ok.mp h
  cases hnode : d.node? p with
  | some n =>
    rw [hnode] at h
    cases h
  | none =>
    have hother : d.node? p ≠ some .directory := by simp [hnode]
    obtain rfl : d' = d.put p .directory := by
      rw [hnode] at h
      cases habove : d.node? p.dropLast with
      | none => simp [habove] at h
      | some n =>
        cases n with
        | directory => simpa [habove, eq_comm] using h
        | file content => simp [habove] at h
        | database db => simp [habove] at h
    have hwithin := within_put hother .directory
    exact ⟨hwithin, isDirectory_iff.mpr ⟨p, placeOf_mono hwithin hp, node?_put (not_root hother) .directory⟩⟩

theorem makeDirectory_of_isDirectory (h : d.isDirectory path = true) : d.makeDirectory path = .error .alreadyThere := by
  obtain ⟨p, hp, hnode⟩ := isDirectory_iff.mp h
  rw [makeDirectory, hp, ok_bind, hnode]
  rfl

theorem ensureDirectory_ok (h : d.ensureDirectory path = .ok d') : d.Within d' ∧ d'.isDirectory path = true := by
  rw [ensureDirectory] at h
  split at h
  · next hmake =>
    cases h
    exact makeDirectory_ok hmake
  · split at h
    · next hd =>
      cases h
      exact ⟨Within.refl d, hd⟩
    · cases h

/-- What is made with all that is missing above it is there. -/
theorem makeDirectories_ok {above : Nat} (h : makeDirectories above d path = .ok d') :
    d.Within d' ∧ (path.length ≤ above → d'.isDirectory path = true) := by
  induction above generalizing d d' path with
  | zero =>
    cases h
    refine ⟨Within.refl d, fun hlength => ?_⟩
    obtain rfl : path = [] := List.length_eq_zero_iff.mp (Nat.le_zero.mp hlength)
    rfl
  | succ above ih =>
    rw [makeDirectories] at h
    split at h
    · next hmake =>
      cases h
      obtain ⟨hwithin, hd⟩ := makeDirectory_ok hmake
      exact ⟨hwithin, fun _ => hd⟩
    · obtain ⟨d₁, habove, hensure⟩ := bind_eq_ok.mp h
      obtain ⟨hwithin, hd⟩ := ensureDirectory_ok hensure
      exact ⟨(ih habove).1.trans hwithin, fun _ => hd⟩
    · split at h
      · next hd =>
        cases h
        exact ⟨Within.refl d, fun _ => hd⟩
      · cases h

theorem makeDirectories_of_isDirectory (above : Nat) (h : d.isDirectory path = true) :
    makeDirectories above d path = .ok d := by
  cases above with
  | zero => rfl
  | succ above => simp [makeDirectories, makeDirectory_of_isDirectory h, h]

end Disk

namespace Handle

variable {d d' : Disk} {path : String} {h : Handle}

/-- Whether the database of a handle is on a disk, if it is on any. -/
def Stands (h : Handle) (d : Disk) : Prop :=
  match h with
  | memory _ => True
  | stored p _ => ∃ db, d.node? p = some (.database db)

theorem makeParents_ok (hmake : makeParents d path = .ok d') :
    d.Within d' ∧ ∀ d'' : Disk, d'.Within d'' → makeParents d'' path = .ok d'' := by
  simp only [makeParents] at hmake ⊢
  split at hmake
  · cases hmake
  · next hzero =>
    obtain ⟨hwithin, hd⟩ := Disk.makeDirectories_ok hmake
    refine ⟨hwithin, fun d'' hwithin'' => ?_⟩
    rw [if_neg hzero]
    exact Disk.makeDirectories_of_isDirectory _ (Disk.isDirectory_mono hwithin'' (hd (Nat.le_refl _)))

theorem openPlace_ok {l : Location} {p : Place} (hopen : openPlace d path l p = .ok (d', h)) :
    h = stored p l.writable ∧ d.Within d' ∧ h.Stands d' := by
  rw [openPlace] at hopen
  cases hnode : d.node? p with
  | none =>
    have hother : d.node? p ≠ some .directory := by simp [hnode]
    simp only [hnode] at hopen
    split at hopen
    · cases hopen
      exact ⟨rfl, Disk.within_put hother _, _, Disk.node?_put (Disk.not_root hother) _⟩
    · cases hopen
  | some n =>
    cases n with
    | directory =>
      simp only [hnode] at hopen
      cases hopen
    | file content =>
      have hother : d.node? p ≠ some .directory := by simp [hnode]
      simp only [hnode] at hopen
      split at hopen
      · cases hopen
        exact ⟨rfl, Disk.within_put hother _, _, Disk.node?_put (Disk.not_root hother) _⟩
      · cases hopen
    | database db =>
      simp only [hnode] at hopen
      cases hopen
      exact ⟨rfl, Disk.Within.refl d, db, hnode⟩

theorem openPlace_database {l : Location} {p : Place} {db : Database} (hnode : d.node? p = some (.database db)) :
    openPlace d path l p = .ok (d, stored p l.writable) := by
  rw [openPlace, hnode]

theorem openLocation_ok {l : Location} (hopen : openLocation d path l = .ok (d', h)) :
    d.Within d' ∧ h.Stands d' ∧
      ∀ d'' : Disk, d'.Within d'' → h.Stands d'' → openLocation d'' path l = .ok (d'', h) := by
  rw [openLocation] at hopen
  by_cases hmemory : l.isMemory = true
  · rw [if_pos hmemory] at hopen
    cases hopen
    exact ⟨Disk.Within.refl d, trivial, fun d'' _ _ => by rw [openLocation, if_pos hmemory]⟩
  · rw [if_neg hmemory] at hopen
    cases hplace : d.placeOf [] (Disk.names l.path) with
    | error f =>
      simp only [hplace] at hopen
      cases hopen
    | ok p =>
      simp only [hplace] at hopen
      obtain ⟨rfl, hwithin, hstands⟩ := openPlace_ok hopen
      refine ⟨hwithin, hstands, fun d'' hwithin'' hstands'' => ?_⟩
      obtain ⟨db, hdb⟩ := hstands''
      have hplace'' := Disk.placeOf_mono (hwithin.trans hwithin'') hplace
      rw [openLocation, if_neg hmemory, hplace'']
      exact openPlace_database hdb

/-- A database that was opened opens as the same handle from every later disk on which it still stands. -/
theorem openPath_ok (hopen : openPath d path = .ok (d', h)) :
    h.Stands d' ∧ ∀ d'' : Disk, d'.Within d'' → h.Stands d'' → openPath d'' path = .ok (d'', h) := by
  obtain ⟨d₁, hparents, hopen⟩ := bind_eq_ok.mp (mapError_eq_ok.mp hopen)
  obtain ⟨_, hagain⟩ := makeParents_ok (mapError_eq_ok.mp hparents)
  by_cases hzero : Disk.hasZero path = true
  · rw [if_pos hzero] at hopen
    cases hopen
  · rw [if_neg hzero] at hopen
    obtain ⟨l, hl, hopen⟩ := bind_eq_ok.mp hopen
    obtain ⟨hwithin, hstands, hlater⟩ := openLocation_ok hopen
    refine ⟨hstands, fun d'' hwithin'' hstands'' => ?_⟩
    rw [openPath, open?, hagain d'' (hwithin.trans hwithin''), mapError_ok, ok_bind, if_neg hzero, hl]
    simp [hlater d'' hwithin'' hstands'']

theorem openPath_again (hopen : openPath d path = .ok (d', h)) : openPath d' path = .ok (d', h) :=
  (openPath_ok hopen).2 d' (Disk.Within.refl d') (openPath_ok hopen).1

/-- A handle writes no directory away, and its database stands where it stood. -/
theorem write_stands (hstands : h.Stands d) (db : Database) :
    d.Within (h.write d db).1 ∧ h.Stands (h.write d db).1 := by
  cases h with
  | memory _ => exact ⟨Disk.Within.refl d, trivial⟩
  | stored p writable =>
    obtain ⟨db', hdb'⟩ := hstands
    have hother : d.node? p ≠ some .directory := by simp [hdb']
    exact ⟨Disk.within_put hother _, db, Disk.node?_put (Disk.not_root hother) _⟩

theorem openPath_write (hopen : openPath d path = .ok (d', h)) (db : Database) :
    openPath (h.write d' db).1 path = .ok ((h.write d' db).1, h) := by
  obtain ⟨hstands, hlater⟩ := openPath_ok hopen
  obtain ⟨hwithin, hstands'⟩ := write_stands hstands db
  exact hlater _ hwithin hstands'

/-- What was written is read back, except that the handle decides whether it can be changed. -/
theorem read_write {p : Place} {writable : Bool} (hstands : (stored p writable).Stands d) (db : Database) :
    (stored p writable).read ((stored p writable).write d db).1 = { db with writable } := by
  obtain ⟨db', hdb'⟩ := hstands
  have hother : d.node? p ≠ some .directory := by simp [hdb']
  rw [read, write, Disk.node?_put (Disk.not_root hother)]

end Handle

end Herbarium
