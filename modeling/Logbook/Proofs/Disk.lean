import Logbook.Disk.Route

/-!
# What file operations leave alone

Writing a file changes that file and no directory. Making directories adds some and changes nothing
that is there. So a way that could be made once leads to the same place for as long as no directory
goes away, and it is not made again.

Results:

* `SameDirectories.writable_eq`: where a file may be written depends on the directories only.
* `append?_spec`, `rename?_spec`: what adding to a file and moving one leave.
* `AgreeBut.put`, `AgreeBut.erase`: what trees that agree but at one path do when files come and go.
* `makeDirectories?_again`, `makeWay_again`: directories that were made are there.
-/

namespace Logbook.Disk

/-! ## Entries -/

theorem isDirectory_iff {disk : Disk} {path : Path} :
    disk.isDirectory path = true ↔ disk.get? path = some .directory := by
  unfold isDirectory
  split
  · rename_i h
    exact ⟨fun _ => h, fun _ => rfl⟩
  · rename_i h
    exact ⟨fun h' => absurd h' Bool.false_ne_true, fun h' => absurd h' h⟩

theorem ne_nil_of_isDirectory {disk : Disk} {path : Path} (h : disk.isDirectory path = false) :
    path ≠ [] := by
  rintro rfl
  exact absurd h (by simp [isDirectory, get?])

theorem get?_erase_of_ne {path other : Path} (h : other ≠ path) (disk : Disk) :
    (disk.erase path).get? other = disk.get? other := by
  simp only [get?, erase, lookup_filter_ne h]

theorem read?_put_self {path : Path} (h : path ≠ []) (content : ByteArray) (disk : Disk) :
    (disk.put path (.file content)).read? path = some content := by
  rw [read?, get?_put_self h]

/-! ## Files come and go -/

/-- Two trees with the same directories. -/
def SameDirectories (disk disk' : Disk) : Prop :=
  ∀ path, disk'.isDirectory path = disk.isDirectory path

theorem SameDirectories.refl (disk : Disk) : SameDirectories disk disk :=
  fun _ => rfl

theorem SameDirectories.symm {a b : Disk} (h : SameDirectories a b) : SameDirectories b a :=
  fun path => (h path).symm

theorem SameDirectories.trans {a b c : Disk} (h : SameDirectories a b) (h' : SameDirectories b c) :
    SameDirectories a c :=
  fun path => (h' path).trans (h path)

/-- Where a file may be written depends on the directories only. -/
theorem SameDirectories.writable_eq {disk disk' : Disk} (h : SameDirectories disk disk')
    (path : Path) : disk'.writable path = disk.writable path := by
  rw [writable, writable, h, h]

theorem isDirectory_of_writable {disk : Disk} {path : Path} (h : disk.writable path = true) :
    disk.isDirectory path = false := by
  simp only [writable, Bool.and_eq_true, Bool.not_eq_true'] at h
  exact h.2

theorem sameDirectories_put {disk : Disk} {path : Path} (h : disk.isDirectory path = false)
    (content : ByteArray) : SameDirectories disk (disk.put path (.file content)) := by
  intro other
  by_cases ho : other = path
  · rw [ho, h, isDirectory, get?_put_self (ne_nil_of_isDirectory h)]
  · rw [isDirectory, get?_put_of_ne ho, isDirectory]

theorem sameDirectories_erase {disk : Disk} {path : Path} (h : disk.isDirectory path = false) :
    SameDirectories disk (disk.erase path) := by
  intro other
  by_cases ho : other = path
  · rw [ho, h, isDirectory, get?_erase_self (ne_nil_of_isDirectory h)]
  · rw [isDirectory, get?_erase_of_ne ho, isDirectory]

/-- Adding to a file succeeds where it may be written, and adds the bytes. -/
theorem append?_spec {disk : Disk} {path : Path} (h : disk.writable path = true)
    (bytes : ByteArray) :
    ∃ disk', disk.append? path bytes = some disk' ∧ SameDirectories disk disk' ∧
      disk'.read? path = some ((disk.read? path).getD .empty ++ bytes) := by
  have hpath := isDirectory_of_writable h
  exact ⟨_, if_pos h, sameDirectories_put hpath _, read?_put_self (ne_nil_of_isDirectory hpath) _ _⟩

/-- Moving a file succeeds where it may be written, and moves its content. -/
theorem rename?_spec {disk : Disk} {path newPath : Path} {content : ByteArray}
    (hread : disk.read? path = some content) (h : disk.writable newPath = true) :
    ∃ disk', disk.rename? path newPath = some disk' ∧ SameDirectories disk disk' ∧
      disk'.read? newPath = some content := by
  have hpath : disk.isDirectory path = false := by
    cases hd : disk.isDirectory path with
    | false => rfl
    | true =>
      rw [read?, isDirectory_iff.1 hd] at hread
      cases hread
  have hnew := isDirectory_of_writable h
  have herase := sameDirectories_erase hpath
  have hput := sameDirectories_put ((herase newPath).trans hnew) content
  refine ⟨_, ?_, herase.trans hput, read?_put_self (ne_nil_of_isDirectory hnew) _ _⟩
  rw [rename?, hread]
  exact if_pos h

/-! ## Trees that agree but at one path -/

/-- Two trees with the same directories that hold the same everywhere but at one path. -/
structure AgreeBut (spare : Path) (a b : Disk) : Prop where
  directories : SameDirectories a b
  get?_eq : ∀ path, path ≠ spare → b.get? path = a.get? path

namespace AgreeBut

variable {spare path : Path} {a b : Disk}

theorem refl (spare : Path) (a : Disk) : AgreeBut spare a a :=
  ⟨SameDirectories.refl a, fun _ _ => rfl⟩

theorem read?_eq (h : AgreeBut spare a b) (hpath : path ≠ spare) : b.read? path = a.read? path := by
  rw [read?, h.get?_eq path hpath, read?]

theorem put (h : AgreeBut spare a b) (hpath : a.isDirectory path = false) (content : ByteArray) :
    AgreeBut spare (a.put path (.file content)) (b.put path (.file content)) := by
  have hpath' : b.isDirectory path = false := (h.directories path).trans hpath
  constructor
  · exact ((sameDirectories_put hpath content).symm.trans h.directories).trans
      (sameDirectories_put hpath' content)
  · intro other hother
    by_cases ho : other = path
    · have hne := ne_nil_of_isDirectory hpath
      rw [ho, get?_put_self hne, get?_put_self hne]
    · rw [get?_put_of_ne ho, get?_put_of_ne ho, h.get?_eq other hother]

theorem erase (h : AgreeBut spare a b) (hpath : a.isDirectory path = false) :
    AgreeBut spare (a.erase path) (b.erase path) := by
  have hpath' : b.isDirectory path = false := (h.directories path).trans hpath
  constructor
  · exact ((sameDirectories_erase hpath).symm.trans h.directories).trans
      (sameDirectories_erase hpath')
  · intro other hother
    by_cases ho : other = path
    · have hne := ne_nil_of_isDirectory hpath
      rw [ho, get?_erase_self hne, get?_erase_self hne]
    · rw [get?_erase_of_ne ho, get?_erase_of_ne ho, h.get?_eq other hother]

end AgreeBut

theorem agreeBut_put {path : Path} {disk : Disk} (h : disk.isDirectory path = false)
    (content : ByteArray) : AgreeBut path disk (disk.put path (.file content)) :=
  ⟨sameDirectories_put h content, fun _ ho => get?_put_of_ne ho _ _⟩

theorem put_put (path : Path) (entry entry' : Entry) (disk : Disk) :
    (disk.put path entry).put path entry' = disk.put path entry' := by
  simp [put, List.filter_filter]

/-! ## Directories are added -/

/-- The tree differs at most by directories where nothing was. -/
def Extends (disk disk' : Disk) : Prop :=
  ∀ path, disk'.get? path = disk.get? path ∨
    disk.get? path = none ∧ disk'.get? path = some .directory

theorem Extends.refl (disk : Disk) : Extends disk disk :=
  fun _ => Or.inl rfl

theorem Extends.trans {a b c : Disk} (h : Extends a b) (h' : Extends b c) : Extends a c := by
  intro path
  rcases h' path with h' | ⟨hb, hc⟩
  · rw [h']
    exact h path
  · rcases h path with h | ⟨-, hb'⟩
    · exact Or.inr ⟨h ▸ hb, hc⟩
    · rw [hb] at hb'
      cases hb'

theorem extends_put {disk : Disk} {path : Path} (h : disk.get? path = none) :
    Extends disk (disk.put path .directory) := by
  have hne : path ≠ [] := by
    rintro rfl
    cases h
  intro other
  by_cases ho : other = path
  · rw [ho]
    exact Or.inr ⟨h, get?_put_self hne _ _⟩
  · exact Or.inl (get?_put_of_ne ho _ _)

theorem Extends.isDirectory {disk disk' : Disk} (h : Extends disk disk') {path : Path}
    (hd : disk.isDirectory path = true) : disk'.isDirectory path = true := by
  rw [isDirectory_iff] at hd ⊢
  rcases h path with h | ⟨hnone, -⟩
  · rw [h, hd]
  · rw [hnone] at hd
    cases hd

/-- Making directories changes no file. -/
theorem Extends.read?_eq {disk disk' : Disk} (h : Extends disk disk') (path : Path) :
    disk'.read? path = disk.read? path := by
  rcases h path with h | ⟨hnone, hdir⟩
  · rw [read?, h, read?]
  · rw [read?, hdir, read?, hnone]

theorem makeDirectory?_spec {disk disk' : Disk} {path : Path}
    (h : disk.makeDirectory? path = some disk') :
    Extends disk disk' ∧ disk'.isDirectory path = true := by
  unfold makeDirectory? at h
  split at h
  · rename_i hd
    cases h
    exact ⟨Extends.refl _, isDirectory_iff.2 hd⟩
  · cases h
  · rename_i hnone
    split at h
    · cases h
      have hne : path ≠ [] := by
        rintro rfl
        cases hnone
      exact ⟨extends_put hnone, isDirectory_iff.2 (get?_put_self hne _ _)⟩
    · cases h

/-- Making directories makes all of them and changes nothing else. -/
theorem foldlM_makeDirectory?_spec {disk disk' : Disk} {paths : List Path}
    (h : paths.foldlM (fun disk path => disk.makeDirectory? path) disk = some disk') :
    Extends disk disk' ∧ ∀ path ∈ paths, disk'.isDirectory path = true := by
  induction paths generalizing disk with
  | nil =>
    cases h
    exact ⟨Extends.refl _, fun path hp => absurd hp List.not_mem_nil⟩
  | cons first paths ih =>
    rw [List.foldlM_cons] at h
    obtain ⟨disk₁, h₁, h⟩ := Option.bind_eq_some_iff.1 h
    obtain ⟨hext₁, hfirst⟩ := makeDirectory?_spec h₁
    obtain ⟨hext, hrest⟩ := ih h
    refine ⟨hext₁.trans hext, fun path hp => ?_⟩
    rcases List.mem_cons.1 hp with rfl | hp
    · exact hext.isDirectory hfirst
    · exact hrest path hp

theorem makeDirectories?_spec {disk disk' : Disk} {path : Path}
    (h : disk.makeDirectories? path = some disk') :
    Extends disk disk' ∧ ∀ p ∈ path.ancestors, disk'.isDirectory p = true :=
  foldlM_makeDirectory?_spec h

theorem makeDirectories?_again {disk : Disk} {path : Path}
    (h : ∀ p ∈ path.ancestors, disk.isDirectory p = true) :
    disk.makeDirectories? path = some disk := by
  rw [makeDirectories?]
  generalize path.ancestors = paths at h
  induction paths with
  | nil => rfl
  | cons first paths ih =>
    rw [List.foldlM_cons, makeDirectory?_of_isDirectory (h first List.mem_cons_self)]
    exact ih fun p hp => h p (List.mem_cons_of_mem first hp)

theorem makeWay_extends (steps : List Route.Step) (path : Path) (disk : Disk) :
    Extends disk (makeWay steps path disk).2 := by
  fun_induction makeWay steps path disk with
  | case1 path disk => exact Extends.refl disk
  | case2 rest path disk ih => exact ih
  | case3 name rest path disk disk₁ h ih => exact (makeDirectory?_spec h).1.trans ih
  | case4 name rest path disk => exact Extends.refl disk

/-- **A way that was made leads to the same place** for as long as its directories are there, and
nothing is made again. -/
theorem makeWay_again {steps : List Route.Step} {path found : Path} {disk disk₁ disk' : Disk}
    (h : makeWay steps path disk = (some found, disk₁))
    (hkeep : ∀ p, disk₁.isDirectory p = true → disk'.isDirectory p = true) :
    makeWay steps path disk' = (some found, disk') := by
  fun_induction makeWay steps path disk with
  | case1 path disk =>
    cases h
    rfl
  | case2 rest path disk ih =>
    rw [makeWay]
    exact ih h
  | case3 name rest path disk disk₂ h₂ ih =>
    have hext := makeWay_extends rest (path ++ [name]) disk₂
    rw [h] at hext
    have hthere := hkeep _ (hext.isDirectory (makeDirectory?_spec h₂).2)
    rw [makeWay, makeDirectory?_of_isDirectory hthere]
    exact ih h
  | case4 => cases h

end Logbook.Disk
