import StoreTrial.Proofs.FileTree

/-! # Paths of names in a location

A path that is joined from a location and a file name leads first where the
location leads, which is a directory then, and from there to the name in it
(`StoreTrial.Path.IsFileName.spot_join`). Two names never meet at one place.
-/

namespace StoreTrial

namespace Path

/-- A separator ends a piece, and the next one starts after it. -/
theorem cut_append_separator (piece first rest : List Char) :
    cut piece (first ++ '/' :: rest) = cut piece first ++ cut [] rest := by
  induction first generalizing piece with
  | nil => rfl
  | cons c first ih =>
      rw [List.cons_append, cut, cut]
      split
      · rw [ih, List.cons_append]
      · exact ih (c :: piece)

/-- A text without separators is one piece. -/
theorem cut_of_notMem {text : List Char} (plain : '/' ∉ text) (piece : List Char) :
    cut piece text = [piece.reverse ++ text] := by
  induction text generalizing piece with
  | nil => rw [cut, List.append_nil]
  | cons c rest ih =>
      have first : c ≠ '/' := fun same => plain (same ▸ List.mem_cons_self)
      have others : '/' ∉ rest := fun member => plain (List.mem_cons_of_mem c member)
      rw [cut, beq_eq_false_iff_ne.mpr first, if_neg Bool.false_ne_true, ih others,
        List.reverse_cons, List.append_assoc]
      rfl

/-- A text that is one piece of a path. -/
structure IsPiece (text : String) : Prop where
  nonempty : text ≠ ""
  plain : '/' ∉ text.toList

/-- A name that a file can have in a directory. -/
structure IsFileName (text : String) : Prop where
  nonempty : text ≠ ""
  plain : '/' ∉ text.toList
  proper : text ≠ "." ∧ text ≠ ".."
  short : text.utf8ByteSize ≤ Disk.nameLimit

instance (text : String) : Decidable (IsFileName text) :=
  decidable_of_iff (text ≠ "" ∧ '/' ∉ text.toList ∧ (text ≠ "." ∧ text ≠ "..") ∧
      text.utf8ByteSize ≤ Disk.nameLimit)
    ⟨fun ⟨nonempty, plain, proper, short⟩ => ⟨nonempty, plain, proper, short⟩,
      fun named => ⟨named.nonempty, named.plain, named.proper, named.short⟩⟩

/-- The non-empty pieces of a text. -/
def piecesOf (text : List Char) : List String :=
  ((cut [] text).map String.ofList).filter fun piece => piece != ""

theorem pieces_ofText (text : String) : (ofText text).pieces = piecesOf text.toList := rfl

theorem piecesOf_append_separator (first rest : List Char) :
    piecesOf (first ++ '/' :: rest) = piecesOf first ++ piecesOf rest := by
  rw [piecesOf, cut_append_separator, List.map_append, List.filter_append]
  rfl

/-- The first text that is cut off continues the one that was read. -/
theorem exists_cut_eq (piece rest : List Char) :
    ∃ more others, cut piece rest = (piece.reverse ++ more) :: others := by
  induction rest generalizing piece with
  | nil => exact ⟨[], [], by rw [cut, List.append_nil]⟩
  | cons c rest ih =>
      rw [cut]
      split
      · exact ⟨[], _, by rw [List.append_nil]⟩
      · obtain ⟨more, others, whole⟩ := ih (c :: piece)
        exact ⟨c :: more, others, by rw [whole, List.reverse_cons, List.append_assoc]; rfl⟩

/-- Only the empty text names nothing. -/
theorem isEmpty_ofText_iff {text : String} : (ofText text).isEmpty = true ↔ text = "" := by
  constructor
  · intro unnamed
    rw [isEmpty, Bool.and_eq_true, Bool.not_eq_true', List.isEmpty_iff] at unnamed
    obtain ⟨unrooted, none⟩ := unnamed
    rw [← String.toList_eq_nil_iff]
    cases letters : text.toList with
    | nil => rfl
    | cons c rest =>
        have other : (c == '/') = false := by simpa [ofText, letters] using unrooted
        obtain ⟨more, others, whole⟩ := exists_cut_eq [c] rest
        rw [pieces_ofText, piecesOf, letters, cut, other, if_neg Bool.false_ne_true, whole] at none
        simp at none
  · rintro rfl
    rfl

theorem faultOf_of_append {first second : String} (fine : faultOf (first ++ second) = none) :
    faultOf first = none := by
  rw [faultOf] at fine ⊢
  split at fine
  · cases fine
  rename_i plain
  split at fine
  · cases fine
  rename_i short
  rw [String.toList_append, List.any_append, Bool.or_eq_true, not_or] at plain
  rw [String.utf8ByteSize_append] at short
  rw [if_neg plain.1, if_neg (by omega)]

namespace IsPiece

variable {name : String}

theorem unrooted (piece : IsPiece name) : (name.toList.head? == some '/') = false := by
  rw [beq_eq_false_iff_ne]
  exact fun rooted => piece.plain (List.mem_of_head? rooted)

/-- A joined path is the location, a separator unless it ends in one, and the name. -/
theorem join_eq (piece : IsPiece name) (location : String) (given : location ≠ "") :
    join location name =
      location ++ (if location.toList.getLast? = some '/' then "" else "/") ++ name := by
  rw [join, piece.unrooted, Bool.false_or, if_neg (by simpa using given)]
  by_cases ended : location.toList.getLast? = some '/'
  · rw [if_pos (by simp [ended]), if_pos ended, String.append_empty]
  · rw [if_neg (by simpa using ended), if_neg ended]

theorem piecesOf_toList (piece : IsPiece name) : piecesOf name.toList = [name] := by
  rw [piecesOf, cut_of_notMem piece.plain]
  simp [String.ofList_toList, piece.nonempty]

/-- The pieces of a joined path are those of the location and the name. -/
theorem pieces_join (piece : IsPiece name) (location : String) :
    (ofText (join location name)).pieces = (ofText location).pieces ++ [name] := by
  rw [pieces_ofText, pieces_ofText, join, piece.unrooted, Bool.false_or]
  by_cases unnamed : location = ""
  · subst unnamed
    rw [if_pos (beq_self_eq_true ""), piece.piecesOf_toList]
    rfl
  · rw [if_neg (by simpa using unnamed)]
    by_cases ended : location.toList.getLast? = some '/'
    · obtain ⟨front, whole⟩ := List.getLast?_eq_some_iff.mp ended
      rw [if_pos (by simp [ended]), String.toList_append, whole, List.append_assoc,
        List.singleton_append, piecesOf_append_separator, piecesOf_append_separator,
        piece.piecesOf_toList]
      simp [piecesOf, cut]
    · rw [if_neg (by simpa using ended), String.toList_append, String.toList_append,
        List.append_assoc]
      change piecesOf (location.toList ++ '/' :: name.toList) = _
      rw [piecesOf_append_separator, piece.piecesOf_toList]

/-- A joined path does not end in a separator. -/
theorem trailing_join (piece : IsPiece name) (location : String) :
    (ofText (join location name)).trailing = false := by
  have written : name.toList ≠ [] := by
    simpa using piece.nonempty
  have last : ∀ front : List Char, (front ++ name.toList).getLast? ≠ some '/' := by
    intro front ended
    rw [List.getLast?_append, List.getLast?_eq_some_getLast written, Option.some_or] at ended
    exact piece.plain (Option.some.inj ended ▸ List.getLast_mem written)
  change ((join location name).toList.getLast? == some '/') = false
  rw [beq_eq_false_iff_ne, join]
  split
  · exact last []
  · split
    · rw [String.toList_append]
      exact last _
    · rw [String.toList_append]
      exact last _

/-- From a place a piece that is not made of dots leads nowhere but to its name there. -/
theorem eq_of_childPlace (proper : name ≠ "." ∧ name ≠ "..") {place next : Place}
    (stepped : Disk.childPlace place name = .ok next) : next = name :: place := by
  rw [Disk.childPlace, if_neg (by simpa using proper.1), if_neg (by simpa using proper.2)]
    at stepped
  split at stepped
  · cases stepped
  · exact (Except.ok.inj stepped).symm

/-- A joined path leads nowhere but to the name in the directory of the location. -/
theorem spot_join (piece : IsPiece name) (proper : name ≠ "." ∧ name ≠ "..") {location : String}
    {disk : Disk} {place : Place}
    (reached : disk.spot (ofText (join location name)) = .ok place) :
    ∃ base, disk.walk [] (ofText location).pieces = .ok base ∧
      disk.entryAt base = some .directory ∧ place = name :: base := by
  obtain ⟨_, _, walked⟩ := Disk.spot_eq_ok_iff.mp reached
  rw [piece.pieces_join location] at walked
  obtain ⟨base, walked, last⟩ := Disk.walk_append_eq_ok_iff.mp walked
  obtain ⟨held, next, stepped, finished⟩ := Disk.walk_cons_eq_ok_iff.mp last
  obtain rfl := eq_of_childPlace proper stepped
  exact ⟨base, walked, held, (Except.ok.inj finished).symm⟩

end IsPiece

namespace IsFileName

variable {name : String}

theorem isPiece (named : IsFileName name) : IsPiece name := ⟨named.nonempty, named.plain⟩

/-- From a place a file name leads to the place of that name in it. -/
theorem childPlace_eq_ok (named : IsFileName name) (place : Place) :
    Disk.childPlace place name = .ok (name :: place) := by
  rw [Disk.childPlace, if_neg (by simpa using named.proper.1),
    if_neg (by simpa using named.proper.2), if_neg (Nat.not_lt.mpr named.short)]

/-- A joined path leads to the name in the directory of the location. -/
theorem spot_join (named : IsFileName name) {location : String} {disk : Disk} {place : Place}
    (reached : disk.spot (ofText (join location name)) = .ok place) :
    ∃ base, disk.walk [] (ofText location).pieces = .ok base ∧
      disk.entryAt base = some .directory ∧ place = name :: base :=
  named.isPiece.spot_join named.proper reached

/-- From a directory a joined path leads to the name in it. -/
theorem spot_join_eq_ok (named : IsFileName name) {location : String} {disk : Disk} {base : Place}
    (fine : (ofText (join location name)).fault = none)
    (walked : disk.walk [] (ofText location).pieces = .ok base)
    (held : disk.entryAt base = some .directory) :
    disk.spot (ofText (join location name)) = .ok (name :: base) := by
  have pieces := named.isPiece.pieces_join location
  refine Disk.spot_eq_ok_iff.mpr ⟨fine, ?_, ?_⟩
  · simp [isEmpty, pieces]
  · rw [pieces]
    refine Disk.walk_append_eq_ok_iff.mpr ⟨base, walked, Disk.walk_cons_eq_ok_iff.mpr ?_⟩
    exact ⟨held, name :: base, named.childPlace_eq_ok base, rfl⟩

/-- Two names in one location lead to different places. -/
theorem ne_of_spot_join {other : String} (named : IsFileName name) (second : IsFileName other)
    (different : name ≠ other) {location : String} {disk : Disk} {left right : Place}
    (first : disk.spot (ofText (join location name)) = .ok left)
    (reached : disk.spot (ofText (join location other)) = .ok right) : left ≠ right := by
  obtain ⟨_, _, _, rfl⟩ := named.spot_join first
  obtain ⟨_, _, _, rfl⟩ := second.spot_join reached
  intro same
  exact different (List.cons.inj same).1

/-- A location stays where it is while only files below it change. -/
theorem exists?_location (named : IsFileName name) {location : String} {disk changed : Disk}
    {place : Place} (reached : disk.spot (ofText (join location name)) = .ok place)
    (keeps : disk.KeepsDirectories changed) (there : disk.exists? (ofText location) = true) :
    changed.exists? (ofText location) = true := by
  obtain ⟨base, walked, held, _⟩ := named.spot_join reached
  obtain ⟨⟨found, entry⟩, look⟩ := Disk.exists?_eq_true_iff.mp there
  obtain ⟨spotted, present, _⟩ := Disk.find_eq_ok_iff.mp look
  obtain ⟨_, _, again⟩ := Disk.spot_eq_ok_iff.mp spotted
  obtain rfl := Except.ok.inj (again.symm.trans walked)
  obtain rfl := Option.some.inj (present.symm.trans held)
  exact Disk.exists?_eq_true_iff.mpr ⟨_, keeps.find look⟩

end IsFileName

end Path

end StoreTrial
