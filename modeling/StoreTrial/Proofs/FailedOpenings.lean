import StoreTrial.Entropy.Source
import StoreTrial.Host.World
import StoreTrial.Proofs.LeaseDialogues
import StoreTrial.Proofs.LocationPaths

/-! # Failed openings

A provisioner that could not open an engine removes nothing. What its opener put at the location
before it failed stays there, and nothing else is there
(`StoreTrial.Provisioner.location_left_iff`). The memory engine makes its location last of all, and
cannot fail behind that if the name is new: it leaves nothing
(`StoreTrial.Provisioner.location_not_left_by_memory`).
-/

namespace StoreTrial

namespace Disk

variable {disk made : Disk} {name : String} {path : Path} {place : Place}

/-- No place of the tree has the name on its way. -/
def Lacks (disk : Disk) (name : String) : Prop := ∀ item ∈ disk.entries, name ∉ item.1

theorem Lacks.entryAt (lacks : disk.Lacks name) (within : name ∈ place) :
    disk.entryAt place = none := by
  cases place with
  | nil => cases within
  | cons first rest =>
      apply List.lookup_eq_none_iff.mpr
      intro item member
      rw [bne_iff_ne]
      intro same
      exact lacks item member (same ▸ within)

theorem Lacks.set (lacks : disk.Lacks name) (outside : name ∉ place) (entry : Entry) :
    (disk.set place entry).Lacks name := by
  intro item member
  rcases List.mem_cons.mp member with rfl | kept
  · exact outside
  · exact lacks item (List.mem_filter.mp kept).1

/-- A walk does not come to a name that is not in its pieces. -/
theorem notMem_of_walk {pieces : List String} {start target : Place} (fresh : name ∉ pieces)
    (outside : name ∉ start) (walked : disk.walk start pieces = .ok target) : name ∉ target := by
  induction pieces generalizing start with
  | nil => rwa [← Except.ok.inj walked]
  | cons piece rest ih =>
      obtain ⟨_, next, stepped, finished⟩ := walk_cons_eq_ok_iff.mp walked
      rw [List.mem_cons, not_or] at fresh
      refine ih fresh.2 ?_ finished
      rw [childPlace] at stepped
      split at stepped
      · rwa [← Except.ok.inj stepped]
      · split at stepped
        · rw [← Except.ok.inj stepped]
          exact fun member => outside (List.mem_of_mem_tail member)
        · split at stepped
          · cases stepped
          · rw [← Except.ok.inj stepped, List.mem_cons, not_or]
            exact ⟨fresh.1, outside⟩

theorem Lacks.makeDirectory (lacks : disk.Lacks name) (fresh : name ∉ path.pieces)
    (success : disk.makeDirectory path = .ok made) : made.Lacks name := by
  obtain ⟨place, reached, _, rfl⟩ := makeDirectory_eq_ok success
  exact lacks.set (notMem_of_walk fresh List.not_mem_nil (spot_eq_ok_iff.mp reached).2.2) _

theorem Lacks.makeChain {paths : List Path} (lacks : disk.Lacks name)
    (fresh : ∀ path ∈ paths, name ∉ path.pieces) : (disk.makeChain paths).2.Lacks name := by
  induction paths with
  | nil => exact lacks
  | cons path parents ih =>
      obtain ⟨here, above⟩ := List.forall_mem_cons.mp fresh
      rw [Disk.makeChain]
      split
      · exact lacks
      split
      · rename_i success
        exact lacks.makeDirectory here success
      · have chained := ih above
        split
        · rename_i failed
          rwa [failed] at chained
        · rename_i provided
          rw [provided] at chained
          split
          · rename_i success
            exact chained.makeDirectory here success
          · exact chained
      · exact lacks

end Disk

namespace Path

/-- No parent of a path has its name, unless it was there above as well. -/
theorem notMem_pieces_of_mem_parents {path parent : Path} {front : List String} {name : String}
    (components : path.components = front ++ [name]) (fresh : name ∉ front)
    (above : parent ∈ path.parents) : name ∉ parent.pieces := by
  obtain ⟨length, shorter, rfl⟩ := List.mem_map.mp above
  rw [List.mem_reverse, List.mem_range, components, List.length_append] at shorter
  intro member
  change name ∈ path.components.take length at member
  rw [components, List.take_append_of_le_length (by simpa using Nat.le_of_lt_succ shorter)]
    at member
  exact fresh (List.mem_of_mem_take member)

theorem mem_pieces_of_mem_components {path : Path} {piece : String}
    (member : piece ∈ path.components) : piece ∈ path.pieces := by
  rw [Path.components] at member
  cases pieces : path.pieces with
  | nil =>
      rw [pieces] at member
      cases member
  | cons first rest =>
      rw [pieces] at member
      dsimp only at member
      split at member
      · exact List.mem_cons_of_mem _ (List.mem_filter.mp member).1
      · rcases List.mem_cons.mp member with rfl | kept
        · exact List.mem_cons_self
        · exact List.mem_cons_of_mem _ (List.mem_filter.mp kept).1

end Path

namespace Path.IsPiece

variable {name base : String} {disk made : Disk}

theorem exists?_join_of_lacks (piece : IsPiece name) (proper : name ≠ "." ∧ name ≠ "..")
    (lacks : disk.Lacks name) : disk.exists? (ofText (join base name)) = false := by
  rw [Bool.eq_false_iff]
  intro there
  obtain ⟨⟨place, entry⟩, found⟩ := Disk.exists?_eq_true_iff.mp there
  obtain ⟨reached, held, _⟩ := Disk.find_eq_ok_iff.mp found
  obtain ⟨root, _, _, rfl⟩ := piece.spot_join proper reached
  rw [lacks.entryAt List.mem_cons_self] at held
  cases held

theorem makeDirectory_join (piece : IsPiece name) (proper : name ≠ "." ∧ name ≠ "..")
    (fresh : name ∉ (ofText base).pieces)
    (success : disk.makeDirectory (ofText (join base name)) = .ok made) :
    ∃ root, name ∉ root ∧ made = disk.set (name :: root) .directory := by
  obtain ⟨place, reached, _, rfl⟩ := Disk.makeDirectory_eq_ok success
  obtain ⟨root, walked, _, rfl⟩ := piece.spot_join proper reached
  exact ⟨root, Disk.notMem_of_walk fresh List.not_mem_nil walked, rfl⟩

/-- Directories up to a new name are made with the name as the last of them, or the name is not
made. -/
theorem makeDirectories_join (piece : IsPiece name) (proper : name ≠ "." ∧ name ≠ "..")
    (fresh : name ∉ (ofText base).pieces) (lacks : disk.Lacks name) :
    (∃ fault, ∃ left : Disk, disk.makeDirectories (ofText (join base name)) = (.error fault, left) ∧
        left.Lacks name) ∨
      ∃ (before : Disk) (root : Place), disk.makeDirectories (ofText (join base name)) =
          (.ok (), before.set (name :: root) .directory) ∧ before.Lacks name ∧ name ∉ root := by
  have named : ¬(ofText (join base name)).isEmpty = true := by
    simp [isEmpty, piece.pieces_join base]
  have absent {before : Disk} (without : before.Lacks name) :
      ¬before.isDirectory (ofText (join base name)) = true := by
    intro held
    have there := Disk.exists?_of_isDirectory held
    rw [piece.exists?_join_of_lacks proper without] at there
    cases there
  have chained := lacks.makeChain fun parent above =>
    notMem_pieces_of_mem_parents (piece.components_join proper.1 base)
      (fun member => fresh (mem_pieces_of_mem_components member)) above
  rw [Disk.makeDirectories, Disk.makeChain, if_neg named]
  split
  · rename_i made success
    obtain ⟨root, outside, rfl⟩ := piece.makeDirectory_join proper fresh success
    exact .inr ⟨disk, root, rfl, lacks, outside⟩
  · split
    · rename_i fault left failed
      rw [failed] at chained
      exact .inl ⟨fault, left, rfl, chained⟩
    · rename_i left provided
      rw [provided] at chained
      split
      · rename_i made success
        obtain ⟨root, outside, rfl⟩ := piece.makeDirectory_join proper fresh success
        exact .inr ⟨left, root, rfl, chained, outside⟩
      · rename_i fault failed
        rw [if_neg (absent chained)]
        exact .inl ⟨fault, left, rfl, chained⟩
  · rename_i fault _ failed
    rw [if_neg (absent lacks)]
    exact .inl ⟨fault, disk, rfl, lacks⟩

/-- There is no snapshot in a directory that was just made under a new name. -/
theorem exists?_snapshot_of_set (piece : IsPiece name) (proper : name ≠ "." ∧ name ≠ "..")
    (lacks : disk.Lacks name) {root : Place} (outside : name ∉ root) :
    (disk.set (name :: root) .directory).exists? (SnapshotFile.path (join base name)) = false := by
  rw [Bool.eq_false_iff]
  intro there
  obtain ⟨⟨place, entry⟩, found⟩ := Disk.exists?_eq_true_iff.mp there
  obtain ⟨reached, held, _⟩ := Disk.find_eq_ok_iff.mp found
  obtain ⟨inner, walked, _, rfl⟩ := SnapshotFile.isFileName_name.spot_join reached
  rw [piece.pieces_join base] at walked
  obtain ⟨above, _, last⟩ := Disk.walk_append_eq_ok_iff.mp walked
  obtain ⟨_, next, stepped, finished⟩ := Disk.walk_cons_eq_ok_iff.mp last
  obtain rfl := eq_of_childPlace proper stepped
  obtain rfl := Except.ok.inj finished
  rw [Disk.entryAt_set disk (by simp)] at held
  split at held
  · rename_i same
    exact outside ((List.cons.inj same).2 ▸ List.mem_cons_self)
  · rw [lacks.entryAt (List.mem_cons_of_mem _ List.mem_cons_self)] at held
    cases held

end Path.IsPiece

/-- A memory engine that could not be opened under a new name has left nothing there. -/
theorem MemoryEngine.exists?_of_openStore_error {name base : String} {disk left : Disk}
    {options : EngineOptions} {failure : Failure} (piece : Path.IsPiece name)
    (proper : name ≠ "." ∧ name ≠ "..") (located : options.path = Path.join base name)
    (fresh : name ∉ (Path.ofText base).pieces) (lacks : disk.Lacks name)
    (failed : openStore options disk = (.error failure, left)) :
    left.exists? (.ofText options.path) = false := by
  have absent : disk.exists? (.ofText (Path.join base name)) = false :=
    piece.exists?_join_of_lacks proper lacks
  rw [openStore, provideLocation, located, absent, if_neg Bool.false_ne_true] at failed
  rw [located]
  by_cases missing : options.createIfMissing = true
  · rw [if_pos missing] at failed
    obtain ⟨fault, tried, made, without⟩ | ⟨before, root, made, without, outside⟩ :=
      piece.makeDirectories_join proper fresh lacks
    · rw [made] at failed
      cases failed
      exact piece.exists?_join_of_lacks proper without
    · rw [made] at failed
      dsimp only at failed
      rw [SnapshotFile.load_of_not_exists?
        (piece.exists?_snapshot_of_set proper without outside)] at failed
      cases failed
  · rw [if_neg missing] at failed
    cases failed
    exact absent

namespace World

/-- How engines are opened: what is replied, and the world that is left. -/
abbrev Opening := World → Opener → String → EngineOptions → Except Failure Handle × World

/-- Answers as the world does, except that engines are opened in another way. -/
def answerBy (opening : Opening) : (question : Question) → World → question.Reply × World
  | .openAt opener location options, world => opening world opener location options
  | question, world => world.answer question

theorem answerBy_openAt (question : Question) (world : World) :
    answerBy openAt question world = world.answer question := by
  cases question <;> rfl

/-- Makes the location and then fails. -/
def openHalfway (failure : Failure) : Opening := fun world _ location _ =>
  (.error failure, { world with disk := (world.disk.makeDirectories (.ofText location)).2 })

/-- The memory engine leaves nothing under a new name when it cannot be opened there. -/
theorem exists?_of_openAt_error {world after : World} {opener : Opener} {base name : String}
    {failure : Failure} (options : EngineOptions) (piece : Path.IsPiece name)
    (proper : name ≠ "." ∧ name ≠ "..") (located : options.path = Path.join base name)
    (fresh : name ∉ (Path.ofText base).pieces) (lacks : world.disk.Lacks name)
    (failed : world.openAt opener options.path options = (.error failure, after)) :
    after.disk.exists? (.ofText options.path) = false := by
  rw [openAt] at failed
  split at failed
  · obtain rfl := (Prod.mk.inj failed).2
    rw [located]
    exact piece.exists?_join_of_lacks proper lacks
  · rw [MemoryEngine.openAt_path] at failed
    cases opened : MemoryEngine.openStore options world.disk with
    | mk result left =>
        rw [opened, mount] at failed
        cases result with
        | ok engine => cases failed
        | error failure =>
            obtain rfl := (Prod.mk.inj failed).2
            exact MemoryEngine.exists?_of_openStore_error piece proper located fresh lacks opened

end World

namespace Provisioner

variable {ε : Type} [EntropySource ε]

/-- The name that is chosen at a time, if the settings are accepted and a suffix can be drawn. -/
def chosenName? (provisioner : Provisioner ε) (nanos : Nat) : Option String :=
  match provisioner.settings.validate,
      (EntropySource.fill provisioner.source Location.suffixSize).1 with
  | .ok (), .ok suffix => some (Location.name provisioner.settings.stem nanos suffix)
  | _, _ => none

/-- The location that is chosen at a time. -/
def chosen? (provisioner : Provisioner ε) (nanos : Nat) : Option String :=
  (provisioner.chosenName? nanos).map (Path.join provisioner.settings.tempRoot)

/-- The opening of an engine at a location that a provisioner chose. -/
def attempt (provisioner : Provisioner ε) (opening : World.Opening) (world : World)
    (location : String) : Except Failure Handle × World :=
  opening world.tick.2 provisioner.opener location (optionsAt provisioner.settings location)

omit [EntropySource ε] in
theorem settleOpening_error {σ : Type} {answer : (question : Question) → σ → question.Reply × σ}
    {location : String} {left next : Provisioner ε} {opened : Except Failure Handle} {stop : Stop}
    {before after : σ}
    (fails : (settleOpening location left opened).run answer before =
      ((.error stop, next), after)) :
    ∃ failure, opened = .error failure ∧ stop = .failed failure ∧ after = before := by
  cases opened with
  | ok handle => cases fails
  | error failure =>
      cases fails
      exact ⟨failure, rfl, rfl, rfl⟩

variable {opening : World.Opening} {provisioner left : Provisioner ε} {world after : World}
  {stop : Stop}

theorem chosen?_of_validate (valid : provisioner.settings.validate = .ok ()) (nanos : Nat) :
    provisioner.chosen? nanos = (provisioner.choice nanos).1.toOption := by
  rw [chosen?, chosenName?, choice, sinceEpoch_natCast, valid]
  cases EntropySource.fill provisioner.source Location.suffixSize with
  | mk filled source => cases filled <;> rfl

/-- What goes wrong with a fresh engine goes wrong before a location is chosen, or when the engine
is opened there. -/
theorem openFresh_error
    (fails : (dialogue openFresh provisioner).run (World.answerBy opening) world =
      ((.error stop, left), after)) :
    ∃ failure, stop = .failed failure ∧
      match provisioner.chosen? world.clock with
      | none => after.disk = world.disk
      | some location => provisioner.attempt opening world location = (.error failure, after) := by
  rw [dialogue_openFresh] at fails
  cases valid : provisioner.settings.validate with
  | error failure =>
      rw [valid] at fails
      cases fails
      rw [chosen?, chosenName?, valid]
      exact ⟨failure, rfl, rfl⟩
  | ok fine =>
      rw [valid] at fails
      rw [chosen?_of_validate valid]
      dsimp only [Script.run, World.answerBy, World.answer, World.tick] at fails
      cases chosen : provisioner.choice world.clock with
      | mk result source =>
          rw [chosen] at fails
          cases result with
          | error failure =>
              cases fails
              exact ⟨failure, rfl, rfl⟩
          | ok location =>
              let tried := provisioner.attempt opening world location
              have settled : (settleOpening location { provisioner with source := source }
                  tried.1).run (World.answerBy opening) tried.2 = ((.error stop, left), after) :=
                fails
              obtain ⟨failure, refused, stopped, rfl⟩ := settleOpening_error settled
              exact ⟨failure, stopped, Prod.ext refused rfl⟩

/-- A lease that could not be had for want of an engine aborts the trial, and asks nothing more of
the files. -/
theorem lease_of_openFresh_error {failure : Failure} (owner : Trial)
    (fails : (dialogue openFresh provisioner).run (World.answerBy opening) world =
      ((.error (.failed failure), left), after)) :
    ∃ aborted, (dialogue (lease owner) provisioner).run (World.answerBy opening) world =
        ((.error (.panicked (owner.abortText (refusalText failure))), left), aborted) ∧
      aborted.disk = after.disk := by
  rw [dialogue_lease_eq_bind, Script.run_bind, fails]
  exact ⟨_, rfl, rfl⟩

/-- **A failed opening leaves at its location what the opener left there.** A fresh engine that
cannot be had, and a lease that aborts the trial for it, leave something at the location that was
chosen exactly if the opener had put something there before it failed; if no location was chosen
the files are as they were. -/
theorem location_left_iff (owner : Trial)
    (fails : (dialogue openFresh provisioner).run (World.answerBy opening) world =
      ((.error stop, left), after)) :
    ∃ failure aborted, stop = .failed failure ∧
      (dialogue (lease owner) provisioner).run (World.answerBy opening) world =
        ((.error (.panicked (owner.abortText (refusalText failure))), left), aborted) ∧
      aborted.disk = after.disk ∧
      (provisioner.chosen? world.clock = none → after.disk = world.disk) ∧
      ∀ location, provisioner.chosen? world.clock = some location →
        (provisioner.attempt opening world location).1 = .error failure ∧
          (after.disk.exists? (.ofText location) = true ↔
            (provisioner.attempt opening world location).2.disk.exists? (.ofText location) =
              true) := by
  obtain ⟨failure, rfl, ends⟩ := openFresh_error fails
  obtain ⟨aborted, aborts, same⟩ := lease_of_openFresh_error owner fails
  refine ⟨failure, aborted, rfl, aborts, same, ?_, ?_⟩
  · intro unchosen
    rwa [unchosen] at ends
  · intro location chosen
    rw [chosen] at ends
    rw [ends]
    exact ⟨rfl, Iff.rfl⟩

/-- A refused opening in a directory for locations that is not there, and one that makes its
location before it fails. -/
theorem location_left_iff_refused_or_halfway :
    let settings : Settings := ⟨"tmp", "kv", 42, 2, false, "info"⟩
    let provisioner : Provisioner Source := ⟨0, settings, .planned #[.pattern #[1]] 0⟩
    let failure : Failure := .engine "disk full"
    let world := World.fresh "home" 5
    let refusing : World := { world with rigs := [(0, { refusal := some failure })] }
    let location := "tmp/kv-5-0101010101010101"
    let refused := (dialogue openFresh provisioner).run (World.answerBy World.openAt) refusing
    let tried := (dialogue openFresh provisioner).run
      (World.answerBy (World.openHalfway failure)) world
    refused.2.disk.exists? (.ofText location) = false ∧
      tried.2.disk.exists? (.ofText location) = true := by
  intro settings provisioner failure world refusing location refused tried
  have chosen : provisioner.chosen? 5 = some location := by decide +kernel
  have first : refused = ((.error (.failed failure), refused.1.2), refused.2) := by
    decide +kernel
  have second : tried = ((.error (.failed failure), tried.1.2), tried.2) := by
    decide +kernel
  obtain ⟨_, _, _, _, _, _, leaves⟩ := location_left_iff ⟨.test, "t", 0⟩ first
  obtain ⟨_, _, _, _, _, _, leavesToo⟩ := location_left_iff ⟨.test, "t", 0⟩ second
  refine ⟨?_, (leavesToo location chosen).2.mpr (by decide +kernel)⟩
  rw [Bool.eq_false_iff]
  intro left
  exact absurd ((leaves location chosen).2.mp left) (by decide +kernel)

/-- Not every failed opening leaves nothing at the location that was chosen for it. -/
theorem location_left_by_failed_opening :
    ¬∀ (opening : World.Opening) (provisioner : Provisioner Source) (world : World)
      (failure : Failure) (location : String),
      let ended := (dialogue openFresh provisioner).run (World.answerBy opening) world
      ended.1.1 = .error (.failed failure) → provisioner.chosen? world.clock = some location →
        ended.2.disk.exists? (.ofText location) = false := by
  intro clean
  have absent := clean (World.openHalfway (.engine "disk full"))
    ⟨0, ⟨"tmp", "kv", 42, 2, false, "info"⟩, .planned #[.pattern #[1]] 0⟩ (World.fresh "tmp" 5)
    (.engine "disk full") "tmp/kv-5-0101010101010101" (by decide +kernel) (by decide +kernel)
  exact absurd absent (by decide +kernel)

theorem name_of_chosenName? {nanos : Nat} {name : String}
    (chosen : provisioner.chosenName? nanos = some name) :
    provisioner.settings.validate = .ok () ∧
      ∃ suffix, name = Location.name provisioner.settings.stem nanos suffix := by
  rw [chosenName?] at chosen
  split at chosen
  · rename_i suffix valid filled
    exact ⟨valid, suffix, (Option.some.inj chosen).symm⟩
  · cases chosen

/-- **The memory engine leaves nothing behind.** A fresh engine that cannot be had has no location
if nothing in the files has the name that was chosen. -/
theorem location_not_left_by_memory {name : String}
    (fails : (dialogue openFresh provisioner).run World.answer world =
      ((.error stop, left), after))
    (chosen : provisioner.chosenName? world.clock = some name)
    (fresh : name ∉ (Path.ofText provisioner.settings.tempRoot).pieces)
    (lacks : world.disk.Lacks name) :
    after.disk.exists? (.ofText (Path.join provisioner.settings.tempRoot name)) = false := by
  have same : World.answerBy World.openAt = World.answer :=
    funext fun question => funext fun world => World.answerBy_openAt question world
  rw [← same] at fails
  obtain ⟨failure, _, ends⟩ := openFresh_error fails
  rw [chosen?, chosen, Option.map_some] at ends
  let options := optionsAt provisioner.settings (Path.join provisioner.settings.tempRoot name)
  have failed : world.tick.2.openAt provisioner.opener options.path options =
      (.error failure, after) := ends
  have without : world.tick.2.disk.Lacks name := lacks
  obtain ⟨valid, suffix, rfl⟩ := name_of_chosenName? chosen
  have piece := Location.isPiece_name (Settings.separator_notMem_stem valid) world.clock suffix
  have proper := Location.proper_name provisioner.settings.stem world.clock suffix
  exact World.exists?_of_openAt_error options piece proper rfl fresh without failed

end Provisioner

end StoreTrial
