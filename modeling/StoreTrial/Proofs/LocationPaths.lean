import StoreTrial.Proofs.LocationNames
import StoreTrial.Proofs.VacantLocations

/-! # Where locations lie

With settings that are accepted every location is one name further than the directory for
locations, and what is removed with it was under that name (`StoreTrial.Location.liesBelow_path`).
The name is never one that leads elsewhere, because there is no separator in it and it is not made
of dots.
-/

namespace StoreTrial

namespace Path

/-- A name behind the pieces of a path is one component more. -/
theorem components_of_pieces {path longer : Path} {name : String} (proper : name ≠ ".")
    (rooted : longer.rooted = path.rooted) (pieces : longer.pieces = path.pieces ++ [name]) :
    longer.components = path.components ++ [name] := by
  have kept : (name != ".") = true := by simpa using proper
  rw [components, components, rooted, pieces]
  cases path.pieces with
  | nil => simp [proper]
  | cons first rest =>
      simp only [List.cons_append, List.filter_append, List.filter_cons, List.filter_nil, kept,
        ↓reduceIte]
      by_cases dropped : (first == "." && path.rooted) = true
      · rw [if_pos dropped, if_pos dropped]
      · rw [if_neg dropped, if_neg dropped, List.cons_append]

/-- A path has the components that it is made of when no dot is to be dropped from them. -/
theorem components_ofComponents {rooted : Bool} {first : String} {rest : List String}
    (proper : (first == "." && rooted) = false) (others : ∀ piece ∈ rest, piece ≠ ".") :
    (ofComponents rooted (first :: rest)).components = first :: rest := by
  have kept : (rest.filter fun piece => piece != ".") = rest :=
    List.filter_eq_self.mpr fun piece member => by simpa using others piece member
  rw [components, ofComponents]
  dsimp only
  rw [kept, proper, if_neg Bool.false_ne_true]

/-- The components of a path make a path with the same components. -/
theorem components_ofComponents_components (path : Path) :
    (ofComponents path.rooted path.components).components = path.components := by
  have plain (rest : List String) : ∀ piece ∈ rest.filter fun piece => piece != ".",
      piece ≠ "." := by
    intro piece member
    simpa using (List.mem_filter.mp member).2
  rw [components.eq_def path]
  cases path.pieces with
  | nil => rfl
  | cons first rest =>
      dsimp only
      by_cases dropped : (first == "." && path.rooted) = true
      · rw [if_pos dropped]
        cases left : rest.filter fun piece => piece != "." with
        | nil => rfl
        | cons second others =>
            have all := plain rest
            rw [left] at all
            obtain ⟨here, later⟩ := List.forall_mem_cons.mp all
            exact components_ofComponents (by simp [here]) later
      · rw [if_neg dropped]
        exact components_ofComponents (by simpa using dropped) (plain rest)

theorem parent?_of_components {path : Path} {front : List String} {name : String}
    (components : path.components = front ++ [name]) :
    path.parent? = some (ofComponents path.rooted front) := by
  rw [parent?, parents, components]
  simp [List.range_succ]

namespace IsPiece

variable {name : String}

theorem rooted_join (piece : IsPiece name) (base : String) :
    (ofText (join base name)).rooted = (ofText base).rooted := by
  change ((join base name).toList.head? == some '/') = (base.toList.head? == some '/')
  rw [join, piece.unrooted, Bool.false_or]
  by_cases unnamed : base = ""
  · subst unnamed
    rw [if_pos (beq_self_eq_true ""), piece.unrooted]
    rfl
  · rw [if_neg (by simpa using unnamed)]
    have written : base.toList ≠ [] := by simpa using unnamed
    obtain ⟨first, rest, whole⟩ := List.exists_cons_of_ne_nil written
    split
    · rw [String.toList_append, whole]
      rfl
    · rw [String.toList_append, String.toList_append, whole]
      rfl

theorem components_join (piece : IsPiece name) (proper : name ≠ ".") (base : String) :
    (ofText (join base name)).components = (ofText base).components ++ [name] :=
  components_of_pieces proper (piece.rooted_join base) (piece.pieces_join base)

end IsPiece

end Path

namespace Disk

variable {disk changed : Disk} {path : Path} {place sought : Place}

/-- Where walks end does not depend on the tree. -/
theorem walk_unique {pieces : List String} {start target other : Place}
    (reached : disk.walk start pieces = .ok target)
    (again : changed.walk start pieces = .ok other) : target = other := by
  induction pieces generalizing start with
  | nil => exact Except.ok.inj (reached.symm.trans again)
  | cons piece rest ih =>
      obtain ⟨_, next, stepped, finished⟩ := walk_cons_eq_ok_iff.mp reached
      obtain ⟨_, other, steppedAgain, finishedAgain⟩ := walk_cons_eq_ok_iff.mp again
      obtain rfl := Except.ok.inj (stepped.symm.trans steppedAgain)
      exact ih finished finishedAgain

theorem place_unique {found : Place × Entry} (reached : disk.spot path = .ok place)
    (again : changed.find path = .ok found) : found.1 = place := by
  obtain ⟨spotted, _⟩ := find_eq_ok_iff.mp again
  exact walk_unique (spot_eq_ok_iff.mp spotted).2.2 (spot_eq_ok_iff.mp reached).2.2

theorem entryAt_removeEmptied (reached : changed.spot path = .ok place)
    (outside : ¬place <:+ sought) :
    (disk.removeEmptied path).2.entryAt sought = disk.entryAt sought := by
  rw [removeEmptied]
  split
  · rfl
  · rfl
  · rename_i found _ look
    obtain rfl := place_unique reached look
    split
    · rfl
    · exact entryAt_clear_of_not_suffix outside false

/-- With a tree nothing is removed but what is at the place of its path and below it. -/
theorem entryAt_removeTree (reached : disk.spot path = .ok place) (outside : ¬place <:+ sought) :
    (disk.removeTree path).2.entryAt sought = disk.entryAt sought := by
  rw [removeTree]
  split
  · rfl
  · rfl
  · rename_i found look
    obtain rfl := place_unique reached look
    exact (entryAt_removeEmptied reached outside).trans (entryAt_clear_of_not_suffix outside true)

/-- What is removed with a tree was at the place of its path or below it. -/
theorem exists_spot_of_removeTree
    (removed : (disk.removeTree path).2.entryAt sought ≠ disk.entryAt sought) :
    ∃ place, disk.spot path = .ok place ∧ place <:+ sought := by
  cases reached : disk.spot path with
  | error fault =>
      rw [removeTree, find, reached] at removed
      exact absurd rfl removed
  | ok place =>
      refine ⟨place, rfl, Classical.byContradiction fun outside => ?_⟩
      exact removed (entryAt_removeTree reached outside)

end Disk

namespace Location

/-- A location that is one name further than a directory. The directory is its parent, and what is
removed with the location was under its name there. -/
structure LiesBelow (base name location : String) : Prop where
  joined : location = Path.join base name
  plain : '/' ∉ name.toList
  proper : name ≠ "." ∧ name ≠ ".."
  components : (Path.ofText location).components = (Path.ofText base).components ++ [name]
  fileName : (Path.ofText location).fileName? = some name
  parent : ∃ parent, (Path.ofText location).parent? = some parent ∧
    parent.rooted = (Path.ofText base).rooted ∧
      parent.components = (Path.ofText base).components
  removal : ∀ (disk : Disk) (sought : Place),
    (disk.removeTree (.ofText location)).2.entryAt sought ≠ disk.entryAt sought →
      ∃ root, disk.walk [] (Path.ofText base).pieces = .ok root ∧ name :: root <:+ sought

theorem liesBelow_join {name : String} (piece : Path.IsPiece name)
    (proper : name ≠ "." ∧ name ≠ "..") (base : String) :
    LiesBelow base name (Path.join base name) where
  joined := rfl
  plain := piece.plain
  proper := proper
  components := piece.components_join proper.1 base
  fileName := by
    rw [Path.fileName?, piece.components_join proper.1 base, List.getLast?_concat]
    split
    · rename_i same
      exact absurd (Option.some.inj same) proper.1
    · rename_i same
      exact absurd (Option.some.inj same) proper.2
    · rfl
  parent := by
    refine ⟨_, Path.parent?_of_components (piece.components_join proper.1 base), ?_, ?_⟩
    · exact piece.rooted_join base
    · rw [piece.rooted_join base]
      exact Path.components_ofComponents_components (.ofText base)
  removal := by
    intro disk sought removed
    obtain ⟨place, reached, inside⟩ := Disk.exists_spot_of_removeTree removed
    obtain ⟨root, walked, -, rfl⟩ := piece.spot_join proper reached
    exact ⟨root, walked, inside⟩

theorem dash_mem_name (stem : String) (nanos : Nat) (suffix : Filled suffixSize) :
    '-' ∈ (name stem nanos suffix).toList := by
  rw [toList_name]
  simp

theorem separator_notMem_name {stem : String} (plain : '/' ∉ stem.toList) (nanos : Nat)
    (suffix : Filled suffixSize) : '/' ∉ (name stem nanos suffix).toList := by
  have digits : '/' ∉ Nat.toDigits 10 nanos := fun member =>
    absurd (Nat.isDigit_of_mem_toDigits (by decide) (by decide) member) (by decide)
  have letters : '/' ∉ (Bytes.hex suffix.val).toList := fun member =>
    absurd (Bytes.mem_hexDigits_of_mem_hex member) (by decide)
  rw [toList_name]
  simp [plain, digits, letters]

theorem name_ne_of_dash_notMem {text : String} (undashed : '-' ∉ text.toList) (stem : String)
    (nanos : Nat) (suffix : Filled suffixSize) : name stem nanos suffix ≠ text := by
  rintro rfl
  exact undashed (dash_mem_name stem nanos suffix)

theorem isPiece_name {stem : String} (plain : '/' ∉ stem.toList) (nanos : Nat)
    (suffix : Filled suffixSize) : Path.IsPiece (name stem nanos suffix) :=
  ⟨name_ne_of_dash_notMem (by decide) stem nanos suffix, separator_notMem_name plain nanos suffix⟩

/-- A name is not one of the dots. -/
theorem proper_name (stem : String) (nanos : Nat) (suffix : Filled suffixSize) :
    name stem nanos suffix ≠ "." ∧ name stem nanos suffix ≠ ".." :=
  ⟨name_ne_of_dash_notMem (by decide) stem nanos suffix,
    name_ne_of_dash_notMem (by decide) stem nanos suffix⟩

/-- A location lies below the directory of its settings, if these have no separator in their
stem. -/
theorem liesBelow_path {settings : Settings} (plain : '/' ∉ settings.stem.toList) (nanos : Nat)
    (suffix : Filled suffixSize) :
    LiesBelow settings.tempRoot (name settings.stem nanos suffix) (path settings nanos suffix) :=
  liesBelow_join (isPiece_name plain nanos suffix) (proper_name _ nanos suffix) settings.tempRoot

/-- A name is a stem, a time and sixteen digits, with dashes between them. -/
theorem exists_name_eq (stem : String) (nanos : Nat) (suffix : Filled suffixSize) :
    ∃ digits : List Char, digits.length = 16 ∧ (∀ c ∈ digits, c ∈ Bytes.hexDigits) ∧
      name stem nanos suffix = stem ++ "-" ++ toString nanos ++ "-" ++ String.ofList digits :=
  ⟨(Bytes.hex suffix.val).toList, length_hex_suffix suffix,
    fun _ => Bytes.mem_hexDigits_of_mem_hex, by rw [String.ofList_toList, name]⟩

end Location

theorem Settings.separator_notMem_stem {settings : Settings} (valid : settings.validate = .ok ()) :
    '/' ∉ settings.stem.toList :=
  (validate_eq_ok_iff.mp valid).2

end StoreTrial
