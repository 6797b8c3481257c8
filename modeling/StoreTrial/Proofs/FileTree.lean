import StoreTrial.Disk.Actions

/-! # What actions on file trees keep

A path leads to the same place in every tree that has the directories it walks
through (`StoreTrial.Disk.KeepsDirectories.spot`). Writing, renaming and removing
files takes no directory away and makes none, so that paths lead where they led
before; what a successful action did is stated by one lemma for each action.
-/

namespace StoreTrial

/-- A computation of two steps succeeds when both do. -/
theorem bind_eq_ok_iff {ε α β : Type} {first : Except ε α} {next : α → Except ε β} {value : β} :
    (first >>= next) = .ok value ↔ ∃ middle, first = .ok middle ∧ next middle = .ok value := by
  cases first with
  | error failure => simp [bind, Except.bind]
  | ok middle => simp [bind, Except.bind]

namespace Disk

variable {disk changed : Disk} {path : Path} {place : Place}

/-- The directories of a tree are directories of another tree, too. -/
def KeepsDirectories (disk changed : Disk) : Prop :=
  ∀ place, disk.entryAt place = some .directory → changed.entryAt place = some .directory

/-- Two trees with the same directories. -/
structure SameDirectories (disk changed : Disk) : Prop where
  keeps : disk.KeepsDirectories changed
  adds : changed.KeepsDirectories disk

theorem SameDirectories.refl (disk : Disk) : disk.SameDirectories disk :=
  ⟨fun _ held => held, fun _ held => held⟩

theorem SameDirectories.trans {last : Disk} (first : disk.SameDirectories changed)
    (second : changed.SameDirectories last) : disk.SameDirectories last :=
  ⟨fun place held => second.keeps place (first.keeps place held),
    fun place held => first.adds place (second.adds place held)⟩

/-- A place without a directory is not the root. -/
theorem ne_root (other : disk.entryAt place ≠ some .directory) : place ≠ [] := by
  rintro rfl
  exact other rfl

theorem requireDirectory_eq_ok_iff :
    disk.requireDirectory place = .ok () ↔ disk.entryAt place = some .directory := by
  rw [requireDirectory]
  split
  · rename_i absent
    simp [absent]
  · rename_i content held
    simp [held]
  · rename_i held
    simp [held]

theorem walk_cons_eq_ok_iff {piece : String} {rest : List String} {target : Place} :
    disk.walk place (piece :: rest) = .ok target ↔
      disk.entryAt place = some .directory ∧
        ∃ next, childPlace place piece = .ok next ∧ disk.walk next rest = .ok target := by
  rw [walk, bind_eq_ok_iff]
  constructor
  · rintro ⟨⟨⟩, held, rest⟩
    exact ⟨requireDirectory_eq_ok_iff.mp held, bind_eq_ok_iff.mp rest⟩
  · rintro ⟨held, rest⟩
    exact ⟨(), requireDirectory_eq_ok_iff.mpr held, bind_eq_ok_iff.mpr rest⟩

/-- A walk along two lists of pieces goes on where the first list ended. -/
theorem walk_append (disk : Disk) (first second : List String) (start : Place) :
    disk.walk start (first ++ second) = disk.walk start first >>= (disk.walk · second) := by
  induction first generalizing start with
  | nil => rfl
  | cons piece rest ih =>
      simp only [List.cons_append, walk]
      cases disk.requireDirectory start with
      | error fault => rfl
      | ok held =>
          cases stepped : childPlace start piece with
          | error fault => rfl
          | ok next => exact ih next

theorem walk_append_eq_ok_iff {first second : List String} {start target : Place} :
    disk.walk start (first ++ second) = .ok target ↔
      ∃ middle, disk.walk start first = .ok middle ∧ disk.walk middle second = .ok target := by
  rw [walk_append, bind_eq_ok_iff]

/-- A walk ends at the same place when no directory is missing. -/
theorem KeepsDirectories.walk (keeps : disk.KeepsDirectories changed) {pieces : List String}
    {start target : Place} (reached : disk.walk start pieces = .ok target) :
    changed.walk start pieces = .ok target := by
  induction pieces generalizing start with
  | nil => exact reached
  | cons piece rest ih =>
      obtain ⟨held, next, stepped, finished⟩ := walk_cons_eq_ok_iff.mp reached
      exact walk_cons_eq_ok_iff.mpr ⟨keeps _ held, next, stepped, ih finished⟩

theorem spot_eq_ok_iff :
    disk.spot path = .ok place ↔
      path.fault = none ∧ path.isEmpty = false ∧ disk.walk [] path.pieces = .ok place := by
  rw [spot]
  split
  · rename_i fault refused
    simp [refused]
  · rename_i accepted
    cases empty : path.isEmpty with
    | true => simp
    | false => simp [accepted]

/-- A path leads to the same place when no directory is missing. -/
theorem KeepsDirectories.spot (keeps : disk.KeepsDirectories changed)
    (reached : disk.spot path = .ok place) : changed.spot path = .ok place := by
  obtain ⟨accepted, named, walked⟩ := spot_eq_ok_iff.mp reached
  exact spot_eq_ok_iff.mpr ⟨accepted, named, keeps.walk walked⟩

theorem SameDirectories.spot_eq_ok_iff (same : disk.SameDirectories changed) :
    changed.spot path = .ok place ↔ disk.spot path = .ok place :=
  ⟨fun reached => same.adds.spot reached, fun reached => same.keeps.spot reached⟩

/-- A path with the same place and the same entry there is found alike. -/
theorem find_congr (reached : disk.spot path = .ok place) (again : changed.spot path = .ok place)
    (held : changed.entryAt place = disk.entryAt place) : changed.find path = disk.find path := by
  rw [find, find, reached, again]
  dsimp only [bind, Except.bind]
  rw [held]

theorem find_eq_ok_iff_of_spot {held : Place} {entry : Entry}
    (reached : disk.spot path = .ok held) :
    disk.find path = .ok (place, entry) ↔
      held = place ∧ disk.entryAt held = some entry ∧
        (path.trailing = true → entry = .directory) := by
  rw [find, reached]
  dsimp only [bind, Except.bind]
  split
  · rename_i absent
    simp [absent]
  · rename_i content found
    rw [found]
    cases path.trailing with
    | true => cases entry <;> simp
    | false => simp
  · rename_i found
    rw [found]
    cases entry <;> simp

theorem find_eq_ok_iff {entry : Entry} :
    disk.find path = .ok (place, entry) ↔
      disk.spot path = .ok place ∧ disk.entryAt place = some entry ∧
        (path.trailing = true → entry = .directory) := by
  constructor
  · intro found
    cases reached : disk.spot path with
    | error fault =>
        rw [find, reached] at found
        cases found
    | ok held =>
        obtain ⟨rfl, rest⟩ := (find_eq_ok_iff_of_spot reached).mp found
        exact ⟨rfl, rest⟩
  · rintro ⟨reached, rest⟩
    exact (find_eq_ok_iff_of_spot reached).mpr ⟨rfl, rest⟩

/-- A found directory is found when no directory is missing. -/
theorem KeepsDirectories.find (keeps : disk.KeepsDirectories changed)
    (found : disk.find path = .ok (place, .directory)) :
    changed.find path = .ok (place, .directory) := by
  obtain ⟨reached, held, fits⟩ := find_eq_ok_iff.mp found
  exact find_eq_ok_iff.mpr ⟨keeps.spot reached, keeps place held, fits⟩

theorem exists?_eq_true_iff :
    disk.exists? path = true ↔ ∃ found, disk.find path = .ok found := by
  rw [exists?]
  cases disk.find path with
  | error fault => simp
  | ok found => simp

theorem isDirectory_eq_true_iff :
    disk.isDirectory path = true ↔ ∃ place, disk.find path = .ok (place, .directory) := by
  rw [isDirectory]
  split
  · rename_i place found
    simp [found]
  · rename_i other
    simp only [Bool.false_eq_true, false_iff, not_exists]
    exact other

/-- A path leads to a directory in every tree with the same directories. -/
theorem SameDirectories.isDirectory_eq (same : disk.SameDirectories changed) (path : Path) :
    changed.isDirectory path = disk.isDirectory path := by
  rw [Bool.eq_iff_iff, isDirectory_eq_true_iff, isDirectory_eq_true_iff]
  exact exists_congr fun _ => ⟨same.adds.find, same.keeps.find⟩

theorem exists?_of_isDirectory (held : disk.isDirectory path = true) :
    disk.exists? path = true := by
  obtain ⟨place, found⟩ := isDirectory_eq_true_iff.mp held
  exact exists?_eq_true_iff.mpr ⟨_, found⟩

theorem readFile_eq_ok_iff {content : Bytes} :
    disk.readFile path = .ok content ↔ ∃ place, disk.find path = .ok (place, .file content) := by
  rw [readFile, bind_eq_ok_iff]
  constructor
  · rintro ⟨⟨place, entry⟩, found, read⟩
    cases entry with
    | directory => exact absurd read (by simp)
    | file held => exact ⟨place, by rw [found, Except.ok.inj read]⟩
  · rintro ⟨place, found⟩
    exact ⟨(place, .file content), found, rfl⟩

/-! ## Actions -/

/-- Setting a file where no directory is changes no directory. -/
theorem sameDirectories_set_file (other : disk.entryAt place ≠ some .directory)
    (content : Bytes) : disk.SameDirectories (disk.set place (.file content)) := by
  constructor
  · intro sought held
    rw [entryAt_set disk (ne_root other), if_neg]
    · exact held
    · rintro rfl
      exact other held
  · intro sought held
    rw [entryAt_set disk (ne_root other)] at held
    split at held
    · cases held
    · exact held

/-- Erasing a place where no directory is changes no directory. -/
theorem sameDirectories_erase (other : disk.entryAt place ≠ some .directory) :
    disk.SameDirectories (disk.erase place) := by
  constructor
  · intro sought held
    rw [entryAt_erase disk (ne_root other), if_neg]
    · exact held
    · rintro rfl
      exact other held
  · intro sought held
    rw [entryAt_erase disk (ne_root other)] at held
    split at held
    · cases held
    · exact held

/-- A written file stands at the place of its path, where no directory was. -/
theorem writeFile_eq_ok {content : Bytes} (written : disk.writeFile path content = .ok changed) :
    path.trailing = false ∧ ∃ place, disk.spot path = .ok place ∧
      disk.entryAt place ≠ some .directory ∧ changed = disk.set place (.file content) := by
  obtain ⟨place, reached, settled⟩ := bind_eq_ok_iff.mp written
  cases held : disk.entryAt place with
  | none =>
      cases ended : path.trailing with
      | true => simp [held, ended] at settled
      | false =>
          simp only [held, ended, Bool.false_eq_true, ↓reduceIte, Except.ok.injEq] at settled
          exact ⟨rfl, place, reached, by simp [held], settled.symm⟩
  | some entry =>
      cases entry with
      | directory => simp [held] at settled
      | file before =>
          cases ended : path.trailing with
          | true => simp [held, ended] at settled
          | false =>
              simp only [held, ended, Bool.false_eq_true, ↓reduceIte, Except.ok.injEq] at settled
              exact ⟨rfl, place, reached, by simp [held], settled.symm⟩

/-- A renamed file leaves its place and stands at the place of its new path, where
no directory was. -/
theorem renameFile_eq_ok {source target : Path}
    (renamed : disk.renameFile source target = .ok changed) :
    ∃ place content destination, disk.find source = .ok (place, .file content) ∧
      disk.spot target = .ok destination ∧ disk.entryAt destination ≠ some .directory ∧
        changed = (disk.erase place).set destination (.file content) := by
  obtain ⟨⟨place, entry⟩, found, settled⟩ := bind_eq_ok_iff.mp renamed
  cases entry with
  | directory => simp at settled
  | file content =>
      obtain ⟨destination, reached, moved⟩ := bind_eq_ok_iff.mp settled
      by_cases taken : disk.entryAt destination = some .directory
      · simp [taken] at moved
      · refine ⟨place, content, destination, found, reached, taken, ?_⟩
        split at moved
        · contradiction
        · exact (Except.ok.inj moved).symm

/-- Writing a file changes no directory. -/
theorem sameDirectories_of_writeFile {content : Bytes}
    (written : disk.writeFile path content = .ok changed) : disk.SameDirectories changed := by
  obtain ⟨_, place, _, other, rfl⟩ := writeFile_eq_ok written
  exact sameDirectories_set_file other content

/-- Writing a file changes nothing at other places. -/
theorem entryAt_of_writeFile {content : Bytes} (written : disk.writeFile path content = .ok changed)
    (other : disk.spot path ≠ .ok place) : changed.entryAt place = disk.entryAt place := by
  obtain ⟨_, target, reached, free, rfl⟩ := writeFile_eq_ok written
  rw [entryAt_set disk (ne_root free), if_neg]
  rintro rfl
  exact other reached

/-- A written file is found with its content. -/
theorem find_of_writeFile {content : Bytes}
    (written : disk.writeFile path content = .ok changed) :
    ∃ place, changed.find path = .ok (place, .file content) := by
  have same := sameDirectories_of_writeFile written
  obtain ⟨unended, place, reached, other, rfl⟩ := writeFile_eq_ok written
  refine ⟨place, find_eq_ok_iff.mpr ⟨same.keeps.spot reached, ?_, by simp [unended]⟩⟩
  rw [entryAt_set disk (ne_root other), if_pos rfl]

/-- Renaming a file changes no directory. -/
theorem sameDirectories_of_renameFile {source target : Path}
    (renamed : disk.renameFile source target = .ok changed) : disk.SameDirectories changed := by
  obtain ⟨place, content, destination, found, _, other, rfl⟩ := renameFile_eq_ok renamed
  have erased : disk.SameDirectories (disk.erase place) :=
    sameDirectories_erase (by simp [(find_eq_ok_iff.mp found).2.1])
  exact erased.trans (sameDirectories_set_file (fun held => other (erased.adds _ held)) content)

/-- Renaming a file changes nothing at other places. -/
theorem entryAt_of_renameFile {source target : Path}
    (renamed : disk.renameFile source target = .ok changed)
    (notSource : disk.spot source ≠ .ok place) (notTarget : disk.spot target ≠ .ok place) :
    changed.entryAt place = disk.entryAt place := by
  obtain ⟨old, content, new, found, reached, free, rfl⟩ := renameFile_eq_ok renamed
  obtain ⟨left, held, _⟩ := find_eq_ok_iff.mp found
  have file : disk.entryAt old ≠ some .directory := by simp [held]
  have notOld : place ≠ old := by
    rintro rfl
    exact notSource left
  have notNew : place ≠ new := by
    rintro rfl
    exact notTarget reached
  rw [entryAt_set _ (ne_root free), if_neg notNew, entryAt_erase disk (ne_root file), if_neg notOld]

/-- A renamed file is found under its new path. -/
theorem find_of_renameFile {source target : Path} (unended : target.trailing = false)
    (renamed : disk.renameFile source target = .ok changed) :
    ∃ place content destination, disk.find source = .ok (place, .file content) ∧
      changed.find target = .ok (destination, .file content) := by
  have same := sameDirectories_of_renameFile renamed
  obtain ⟨place, content, destination, found, reached, other, rfl⟩ := renameFile_eq_ok renamed
  refine ⟨place, content, destination, found,
    find_eq_ok_iff.mpr ⟨same.keeps.spot reached, ?_, by simp [unended]⟩⟩
  rw [entryAt_set _ (ne_root other), if_pos rfl]

/-- A new directory stands at the place of its path, where nothing was. -/
theorem makeDirectory_eq_ok (made : disk.makeDirectory path = .ok changed) :
    ∃ place, disk.spot path = .ok place ∧ disk.entryAt place = none ∧
      changed = disk.set place .directory := by
  obtain ⟨place, reached, settled⟩ := bind_eq_ok_iff.mp made
  cases held : disk.entryAt place with
  | some entry => simp [held] at settled
  | none =>
      simp only [held, Except.ok.injEq] at settled
      exact ⟨place, reached, held, settled.symm⟩

/-- A new directory takes none away. -/
theorem keepsDirectories_set_directory (inner : place ≠ []) :
    disk.KeepsDirectories (disk.set place .directory) := by
  intro sought held
  rw [entryAt_set disk inner]
  split
  · rfl
  · exact held

/-- A made directory is there. -/
theorem isDirectory_of_makeDirectory (made : disk.makeDirectory path = .ok changed) :
    changed.isDirectory path = true := by
  obtain ⟨place, reached, absent, rfl⟩ := makeDirectory_eq_ok made
  have other : disk.entryAt place ≠ some .directory := by simp [absent]
  have inner : place ≠ [] := ne_root other
  have placed : (disk.set place .directory).entryAt place = some .directory := by
    rw [entryAt_set disk inner, if_pos rfl]
  exact isDirectory_eq_true_iff.mpr
    ⟨place, find_eq_ok_iff.mpr
      ⟨(keepsDirectories_set_directory inner).spot reached, placed, fun _ => rfl⟩⟩

/-- After directories were made up to a path there is a directory at the path, unless it names
nothing. -/
theorem isDirectory_of_makeDirectories (named : path.isEmpty = false)
    (made : disk.makeDirectories path = (.ok (), changed)) : changed.isDirectory path = true := by
  rw [makeDirectories, makeChain, named] at made
  simp only [Bool.false_eq_true, ↓reduceIte] at made
  split at made
  · rename_i left first
    cases made
    exact isDirectory_of_makeDirectory first
  · split at made
    · cases made
    · split at made
      · rename_i left _ again second
        cases made
        exact isDirectory_of_makeDirectory second
      · split at made
        · rename_i held
          cases made
          exact held
        · cases made
  · split at made
    · rename_i held
      cases made
      exact held
    · cases made

theorem exists?_of_makeDirectories (named : path.isEmpty = false)
    (made : disk.makeDirectories path = (.ok (), changed)) : changed.exists? path = true :=
  exists?_of_isDirectory (isDirectory_of_makeDirectories named made)

/-- No directory has to be made for a path that names nothing. -/
theorem makeDirectories_of_isEmpty (unnamed : path.isEmpty = true) :
    disk.makeDirectories path = (.ok (), disk) := by
  rw [makeDirectories, makeChain, if_pos unnamed]

/-- Nothing is at a path that names nothing. -/
theorem exists?_of_isEmpty (unnamed : path.isEmpty = true) : disk.exists? path = false := by
  rw [Bool.eq_false_iff]
  intro there
  obtain ⟨⟨place, entry⟩, found⟩ := exists?_eq_true_iff.mp there
  obtain ⟨_, named, _⟩ := spot_eq_ok_iff.mp (find_eq_ok_iff.mp found).1
  rw [unnamed] at named
  contradiction

/-! ## Actions that succeed -/

theorem writeFile_of_spot {path : Path} (reached : disk.spot path = .ok place)
    (other : disk.entryAt place ≠ some .directory) (unended : path.trailing = false)
    (content : Bytes) : disk.writeFile path content = .ok (disk.set place (.file content)) := by
  refine bind_eq_ok_iff.mpr ⟨place, reached, ?_⟩
  match held : disk.entryAt place with
  | none => simp [unended]
  | some (.file before) => simp [unended]
  | some .directory => exact absurd held other

theorem renameFile_of_find {source target : Path} {destination : Place} {content : Bytes}
    (found : disk.find source = .ok (place, .file content))
    (reached : disk.spot target = .ok destination)
    (other : disk.entryAt destination ≠ some .directory) :
    disk.renameFile source target =
      .ok ((disk.erase place).set destination (.file content)) := by
  refine bind_eq_ok_iff.mpr ⟨_, found, bind_eq_ok_iff.mpr ⟨destination, reached, ?_⟩⟩
  match held : disk.entryAt destination with
  | none | some (.file before) => rfl
  | some .directory => exact absurd held other

theorem exists?_of_spot {path : Path} (reached : disk.spot path = .ok place)
    (absent : disk.entryAt place = none) : disk.exists? path = false := by
  rw [Bool.eq_false_iff]
  intro there
  obtain ⟨⟨held, entry⟩, look⟩ := exists?_eq_true_iff.mp there
  obtain ⟨_, present, _⟩ := (find_eq_ok_iff_of_spot reached).mp look
  rw [absent] at present
  cases present

theorem makeDirectory_of_spot {path : Path} (reached : disk.spot path = .ok place)
    (absent : disk.entryAt place = none) :
    disk.makeDirectory path = .ok (disk.set place .directory) := by
  refine bind_eq_ok_iff.mpr ⟨place, reached, ?_⟩
  rw [absent]

end Disk

end StoreTrial
