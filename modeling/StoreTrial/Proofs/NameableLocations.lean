import Mathlib.Data.String.Basic
import StoreTrial.Entropy.Source
import StoreTrial.Host.World
import StoreTrial.Proofs.LeaseDialogues
import StoreTrial.Proofs.LocationPaths
import StoreTrial.Proofs.VacantLocations

/-! # Names that a file tree takes

The settings are accepted with every beginning of the names that is not empty and has no separator.
The file tree takes a name only if it has no NUL in it and at most 255 bytes, 18 of which follow the
beginning and the time. A fresh engine can be opened with accepted settings exactly if its name is
taken and the path of it is not too long (`StoreTrial.Provisioner.openFresh_eq_ok_iff_isNameable`).
-/

namespace StoreTrial

/-- A character of ASCII takes one byte. -/
theorem utf8ByteSize_of_ascii {text : String} (ascii : ∀ c ∈ text.toList, c.val ≤ 127) :
    text.utf8ByteSize = text.toList.length := by
  have counted (letters : List Char) (ascii : ∀ c ∈ letters, c.val ≤ 127) :
      String.utf8Len letters = letters.length := by
    induction letters with
    | nil => rfl
    | cons c rest ih =>
        obtain ⟨first, others⟩ := List.forall_mem_cons.mp ascii
        rw [String.utf8Len_cons, ih others, Char.utf8Size_eq_one_iff.mpr first, List.length_cons]
  rw [← counted text.toList ascii, ← String.utf8ByteSize_ofList, String.ofList_toList]

namespace Path

/-- A path is refused for a NUL in it before it is for its length. -/
theorem faultOf_eq (text : String) :
    faultOf text =
      if '\x00' ∈ text.toList then some .nulInPath
      else if lengthLimit ≤ text.utf8ByteSize then some .nameTooLong else none := by
  have nul : (text.toList.any fun c => c.toNat == 0) = true ↔ '\x00' ∈ text.toList := by
    rw [List.any_eq_true]
    constructor
    · rintro ⟨c, member, zero⟩
      exact Char.toNat_inj.mp (eq_of_beq zero : c.toNat = '\x00'.toNat) ▸ member
    · exact fun member => ⟨_, member, rfl⟩
  rw [faultOf]
  simp only [nul]

namespace IsPiece

variable {base name : String} {disk : Disk} {root : Place}

/-- From a directory a name leads to its place there, unless its path is refused or it is too
long. -/
theorem spot_join_eq (piece : IsPiece name) (proper : name ≠ "." ∧ name ≠ "..")
    (directory : disk.find (ofText base) = .ok (root, .directory)) :
    disk.spot (ofText (join base name)) =
      match faultOf (join base name) with
      | some fault => .error fault
      | none =>
          if Disk.nameLimit < name.utf8ByteSize then .error .nameTooLong
          else .ok (name :: root) := by
  obtain ⟨reached, held, _⟩ := Disk.find_eq_ok_iff.mp directory
  have walked : disk.walk [] (ofText base).pieces = .ok root := (Disk.spot_eq_ok_iff.mp reached).2.2
  have pieces := piece.pieces_join base
  have named : ¬(ofText (join base name)).isEmpty = true := by simp [isEmpty, pieces]
  have fault : (ofText (join base name)).fault = faultOf (join base name) := rfl
  rw [Disk.spot, fault]
  cases faultOf (join base name) with
  | some fault => rfl
  | none =>
      dsimp only
      rw [if_neg named, pieces, Disk.walk_append, walked]
      simp only [bind, Except.bind, Disk.walk, Disk.requireDirectory, held]
      rw [Disk.childPlace, if_neg (by simpa using proper.1), if_neg (by simpa using proper.2)]
      by_cases long : Disk.nameLimit < name.utf8ByteSize
      · simp only [if_pos long]
      · simp only [if_neg long]

/-- A character is in a joined path if it is in one of its parts, or a separator. -/
theorem mem_join_iff (piece : IsPiece name) (base : String) {c : Char} (other : c ≠ '/') :
    c ∈ (join base name).toList ↔ c ∈ base.toList ∨ c ∈ name.toList := by
  by_cases unnamed : base = ""
  · subst unnamed
    rw [join, if_pos (by simp)]
    simp
  · rw [piece.join_eq base unnamed]
    split
    · simp
    · simp [other]

end IsPiece

end Path

namespace MemoryEngine

/-- An engine is not opened where its path is refused. -/
theorem openStore_of_spot_eq_error {options : EngineOptions} {disk : Disk} {fault : DiskFault}
    (lost : disk.spot (.ofText options.path) = .error fault) (other : fault ≠ .noEntry)
    (makes : options.createIfMissing = true) (named : (Path.ofText options.path).isEmpty = false) :
    openStore options disk = (.error (.io fault), disk) := by
  have unfound : disk.find (.ofText options.path) = .error fault := by
    rw [Disk.find, lost]
    rfl
  have absent : disk.exists? (.ofText options.path) = false := by rw [Disk.exists?, unfound]
  have plain : disk.isDirectory (.ofText options.path) = false := by
    rw [Disk.isDirectory, unfound]
  have unmade : disk.makeDirectory (.ofText options.path) = .error fault := by
    rw [Disk.makeDirectory, lost]
    rfl
  have refused : disk.makeDirectories (.ofText options.path) = (.error fault, disk) := by
    rw [Disk.makeDirectories, Disk.makeChain, if_neg (ne_true_of_eq_false named), unmade]
    cases fault with
    | noEntry => exact absurd rfl other
    | _ => simp [plain]
  rw [openStore, provideLocation, absent, if_neg Bool.false_ne_true, if_pos makes, refused]

end MemoryEngine

namespace Location

variable {settings : Settings} {nanos : Nat} {suffix : Filled suffixSize}

/-- The name of a location is one that the file tree takes, and so is its path. -/
structure IsNameable (settings : Settings) (nanos : Nat) (suffix : Filled suffixSize) : Prop where
  plain : '\x00' ∉ settings.stem.toList
  short : settings.stem.utf8ByteSize + (Nat.toDigits 10 nanos).length + 18 ≤ 255
  reachable : (path settings nanos suffix).utf8ByteSize < 4096

instance (settings : Settings) (nanos : Nat) (suffix : Filled suffixSize) :
    Decidable (IsNameable settings nanos suffix) :=
  decidable_of_iff ('\x00' ∉ settings.stem.toList ∧
      settings.stem.utf8ByteSize + (Nat.toDigits 10 nanos).length + 18 ≤ 255 ∧
      (path settings nanos suffix).utf8ByteSize < 4096)
    ⟨fun ⟨plain, short, reachable⟩ => ⟨plain, short, reachable⟩,
      fun nameable => ⟨nameable.plain, nameable.short, nameable.reachable⟩⟩

theorem utf8ByteSize_name (stem : String) (nanos : Nat) (suffix : Filled suffixSize) :
    (name stem nanos suffix).utf8ByteSize =
      stem.utf8ByteSize + (Nat.toDigits 10 nanos).length + 18 := by
  have time : (toString nanos).toList = Nat.toDigits 10 nanos := Nat.toList_repr
  have timed : (toString nanos).utf8ByteSize = (Nat.toDigits 10 nanos).length := by
    rw [utf8ByteSize_of_ascii, time]
    rw [time]
    intro c member
    have digit := Nat.isDigit_of_mem_toDigits (by decide) (by decide) member
    simp only [Char.isDigit, Bool.and_eq_true, decide_eq_true_eq] at digit
    exact UInt32.le_trans digit.2 (by decide)
  have ended : (Bytes.hex suffix.val).utf8ByteSize = 16 := by
    have ascii : (Bytes.hexDigits.all fun c => c.val ≤ 127) = true := by decide
    rw [utf8ByteSize_of_ascii, length_hex_suffix]
    intro c member
    simpa using List.all_eq_true.mp ascii c (Bytes.mem_hexDigits_of_mem_hex member)
  have dash : "-".utf8ByteSize = 1 := rfl
  simp only [name, String.utf8ByteSize_append, timed, ended, dash]
  omega

theorem nul_mem_name_iff {stem : String} :
    '\x00' ∈ (name stem nanos suffix).toList ↔ '\x00' ∈ stem.toList := by
  have digits : '\x00' ∉ Nat.toDigits 10 nanos := fun member =>
    absurd (Nat.isDigit_of_mem_toDigits (by decide) (by decide) member) (by decide)
  have letters : '\x00' ∉ (Bytes.hex suffix.val).toList := fun member =>
    absurd (Bytes.mem_hexDigits_of_mem_hex member) (by decide)
  rw [toList_name]
  simp [digits, letters]

/-- Why a location is refused, if it is. -/
def refusal (settings : Settings) : DiskFault :=
  if '\x00' ∈ settings.stem.toList then .nulInPath else .nameTooLong

/-- From its directory the path of a location leads to its name exactly if that is taken. -/
theorem spot_path_eq {disk : Disk} {root : Place} (valid : settings.validate = .ok ())
    (directory : disk.find (.ofText settings.tempRoot) = .ok (root, .directory)) (nanos : Nat)
    (suffix : Filled suffixSize) :
    disk.spot (.ofText (path settings nanos suffix)) =
      if IsNameable settings nanos suffix then .ok (name settings.stem nanos suffix :: root)
      else .error (refusal settings) := by
  have piece := isPiece_name (Settings.separator_notMem_stem valid) nanos suffix
  have fine : Path.faultOf settings.tempRoot = none :=
    (Disk.spot_eq_ok_iff.mp (Disk.find_eq_ok_iff.mp directory).1).1
  have sound : '\x00' ∉ settings.tempRoot.toList := by
    intro member
    rw [Path.faultOf_eq, if_pos member] at fine
    cases fine
  have nul : '\x00' ∈ (path settings nanos suffix).toList ↔ '\x00' ∈ settings.stem.toList := by
    rw [path, piece.mem_join_iff _ (by decide), nul_mem_name_iff, or_iff_right sound]
  have fault := Path.faultOf_eq (path settings nanos suffix)
  have size := utf8ByteSize_name settings.stem nanos suffix
  rw [path, piece.spot_join_eq (proper_name _ nanos suffix) directory, ← path, fault]
  simp only [nul]
  by_cases torn : '\x00' ∈ settings.stem.toList
  · have unnameable : ¬IsNameable settings nanos suffix := fun nameable => nameable.plain torn
    rw [if_pos torn, if_neg unnameable, refusal, if_pos torn]
  · rw [if_neg torn, refusal, if_neg torn]
    by_cases far : Path.lengthLimit ≤ (path settings nanos suffix).utf8ByteSize
    · have unnameable : ¬IsNameable settings nanos suffix := fun nameable =>
        Nat.not_lt.mpr far nameable.reachable
      rw [if_pos far, if_neg unnameable]
    · rw [if_neg far]
      dsimp only
      by_cases long : Disk.nameLimit < (name settings.stem nanos suffix).utf8ByteSize
      · have unnameable : ¬IsNameable settings nanos suffix := fun nameable =>
          Nat.not_le.mpr (size ▸ long) nameable.short
        rw [if_pos long, if_neg unnameable]
      · have nameable : IsNameable settings nanos suffix :=
          ⟨torn, size ▸ Nat.not_lt.mp long, Nat.not_le.mp far⟩
        rw [if_neg long, if_pos nameable]

end Location

namespace Provisioner

open Location (IsNameable refusal)

variable {ε : Type} [EntropySource ε] {provisioner : Provisioner ε} {world : World} {root : Place}
  {suffix : Filled Location.suffixSize} {source : ε}

theorem run_openFresh (valid : provisioner.settings.validate = .ok ())
    (drawn : EntropySource.fill provisioner.source Location.suffixSize = (.ok suffix, source))
    (willing : (world.rig provisioner.opener).refusal = none) :
    let location := Location.path provisioner.settings world.clock suffix
    let options := optionsAt provisioner.settings location
    let tried := world.tick.2.mount (some provisioner.opener)
      (MemoryEngine.openStore options world.disk)
    (dialogue openFresh provisioner).run World.answer world =
      (settleOpening location { provisioner with source := source } tried.1).run World.answer
        tried.2 := by
  intro location options tried
  have opening : world.tick.2.openAt provisioner.opener location options = tried := by
    have still : (world.tick.2.rig provisioner.opener).refusal = none := willing
    rw [World.openAt, still]
    exact congrArg (world.tick.2.mount (some provisioner.opener))
      (MemoryEngine.openAt_path options world.disk)
  rw [dialogue_openFresh, valid]
  simp only [Script.run, World.answer, World.tick, choice_of_drawn _ drawn]
  exact congrArg (fun tried : Except Failure Handle × World =>
    (settleOpening location { provisioner with source := source } tried.1).run World.answer
      tried.2) opening

/-- Where the name of the location is not taken the system refuses it, and the files are as they
were. -/
theorem openFresh_of_not_isNameable (valid : provisioner.settings.validate = .ok ())
    (directory : world.disk.find (.ofText provisioner.settings.tempRoot) = .ok (root, .directory))
    (drawn : EntropySource.fill provisioner.source Location.suffixSize = (.ok suffix, source))
    (willing : (world.rig provisioner.opener).refusal = none)
    (unnameable : ¬IsNameable provisioner.settings world.clock suffix) :
    let (ended, after) := (dialogue openFresh provisioner).run World.answer world
    ended.1 = .error (.failed (.io (refusal provisioner.settings))) ∧ after.disk = world.disk := by
  let options := optionsAt provisioner.settings
    (Location.path provisioner.settings world.clock suffix)
  have spotted := Location.spot_path_eq valid directory world.clock suffix
  rw [if_neg unnameable] at spotted
  have present : refusal provisioner.settings ≠ .noEntry := by
    rw [refusal]
    split <;> simp
  have piece := Location.isPiece_name (Settings.separator_notMem_stem valid) world.clock suffix
  have pieces : (Path.ofText options.path).pieces = _ :=
    piece.pieces_join provisioner.settings.tempRoot
  have named : (Path.ofText options.path).isEmpty = false := by simp [Path.isEmpty, pieces]
  have lost : world.disk.spot (.ofText options.path) = .error (refusal provisioner.settings) :=
    spotted
  rw [run_openFresh valid drawn willing,
    MemoryEngine.openStore_of_spot_eq_error lost present rfl named]
  exact ⟨rfl, rfl⟩

/-- **Accepted settings give a fresh engine exactly if its name is taken.** Let the directory for
the locations be there, random bytes be had, the opener be willing, and nothing be at the location
that is drawn. If the name of the location has no NUL in it and at most 255 bytes, and its path
fewer than 4096, an engine is opened there and the location is a directory. Otherwise there is no
engine, the failure is that of the system, and the files are as they were. -/
theorem openFresh_eq_ok_iff_isNameable (valid : provisioner.settings.validate = .ok ())
    (directory : world.disk.find (.ofText provisioner.settings.tempRoot) = .ok (root, .directory))
    (drawn : EntropySource.fill provisioner.source Location.suffixSize = (.ok suffix, source))
    (willing : (world.rig provisioner.opener).refusal = none)
    (free : ∀ item ∈ world.disk.entries,
      ¬Location.name provisioner.settings.stem world.clock suffix :: root <:+ item.1) :
    let location := Location.path provisioner.settings world.clock suffix
    let (ended, after) := (dialogue openFresh provisioner).run World.answer world
    ((∃ opened, ended.1 = .ok opened) ↔ IsNameable provisioner.settings world.clock suffix) ∧
    (IsNameable provisioner.settings world.clock suffix →
      ended.1 = .ok (location, world.engines.size) ∧
        after.disk.isDirectory (.ofText location) = true) ∧
    (¬IsNameable provisioner.settings world.clock suffix →
      ended.1 = .error (.failed (.io (refusal provisioner.settings))) ∧
        after.disk = world.disk) := by
  intro location
  by_cases nameable : IsNameable provisioner.settings world.clock suffix
  · let options := optionsAt provisioner.settings location
    have spotted := Location.spot_path_eq valid directory world.clock suffix
    rw [if_pos nameable] at spotted
    have reached : world.disk.spot (.ofText options.path) = _ := spotted
    have opened := MemoryEngine.openStore_of_free reached (List.cons_ne_nil _ _) free rfl
    have nothing : world.disk.entryAt _ = none :=
      Disk.entryAt_of_free free (List.cons_ne_nil _ _) List.suffix_rfl
    have made := Disk.isDirectory_of_makeDirectory (Disk.makeDirectory_of_spot spotted nothing)
    rw [run_openFresh valid drawn willing, opened]
    exact ⟨⟨fun _ => nameable, fun _ => ⟨_, rfl⟩⟩, fun _ => ⟨rfl, made⟩,
      fun unnameable => absurd nameable unnameable⟩
  · have refused := openFresh_of_not_isNameable valid directory drawn willing nameable
    refine ⟨⟨?_, fun taken => absurd taken nameable⟩, fun taken => absurd taken nameable,
      fun _ => refused⟩
    rintro ⟨opened, given⟩
    cases refused.1.symm.trans given

/-- A beginning that is taken and one with a NUL in it. -/
theorem openFresh_eq_ok_iff_isNameable_plain_or_torn :
    let settings (stem : String) : Settings := ⟨"tmp", stem, 42, 2, false, "info"⟩
    let provisioner (stem : String) : Provisioner Source :=
      ⟨0, settings stem, .planned #[.pattern #[1]] 0⟩
    let world := World.fresh "tmp" 42
    let suffix : Filled Location.suffixSize := .ofPositions Location.suffixSize fun _ => 1
    let given (stem : String) := (settings stem).validate = .ok () ∧
      world.disk.find (.ofText "tmp") = .ok (["tmp"], .directory) ∧
      EntropySource.fill (provisioner stem).source Location.suffixSize =
        (.ok suffix, .planned #[.pattern #[1]] 1) ∧
      (world.rig 0).refusal = none ∧
      ∀ item ∈ world.disk.entries,
        ¬Location.name (settings stem).stem 42 suffix :: ["tmp"] <:+ item.1
    let ended (stem : String) := (dialogue openFresh (provisioner stem)).run World.answer world
    (given "kv" ∧ given "k\x00v") ∧ (∃ opened, (ended "kv").1.1 = .ok opened) ∧
      (ended "k\x00v").1.1 = .error (.failed (.io .nulInPath)) := by
  intro settings provisioner world suffix given ended
  have settled (stem : String) (holds : given stem) :
      ((∃ opened, (ended stem).1.1 = .ok opened) ↔ IsNameable (settings stem) 42 suffix) ∧
        (¬IsNameable (settings stem) 42 suffix →
          (ended stem).1.1 = .error (.failed (.io (refusal (settings stem))))) := by
    obtain ⟨accepted, directory, drawn, willing, free⟩ := holds
    have valid : (provisioner stem).settings.validate = .ok () := accepted
    have fits := openFresh_eq_ok_iff_isNameable valid directory drawn willing free
    exact ⟨fits.1, fun unnameable => (fits.2.2 unnameable).1⟩
  have first : given "kv" := by decide +kernel
  have second : given "k\x00v" := by decide +kernel
  have torn : refusal (settings "k\x00v") = .nulInPath := by decide +kernel
  have failed := (settled _ second).2 (by decide +kernel)
  rw [torn] at failed
  exact ⟨⟨first, second⟩, (settled _ first).1.mpr (by decide +kernel), failed⟩

/-- A beginning of more than 255 bytes is accepted, and no name with it is taken. -/
theorem openFresh_of_long_stem (whole : '/' ∉ provisioner.settings.stem.toList)
    (plain : '\x00' ∉ provisioner.settings.stem.toList)
    (long : 255 < provisioner.settings.stem.utf8ByteSize)
    (directory : world.disk.find (.ofText provisioner.settings.tempRoot) = .ok (root, .directory))
    (drawn : EntropySource.fill provisioner.source Location.suffixSize = (.ok suffix, source))
    (willing : (world.rig provisioner.opener).refusal = none) :
    provisioner.settings.validate = .ok () ∧
      ((dialogue openFresh provisioner).run World.answer world).1.1 =
        .error (.failed (.io .nameTooLong)) := by
  have filled : provisioner.settings.stem ≠ "" := by
    intro empty
    rw [empty] at long
    exact absurd long (by decide)
  have valid := Settings.validate_eq_ok_iff.mpr ⟨filled, whole⟩
  have why : refusal provisioner.settings = .nameTooLong := by rw [refusal, if_neg plain]
  have unnameable : ¬IsNameable provisioner.settings world.clock suffix := by
    intro nameable
    have short := nameable.short
    omega
  rw [← why]
  exact ⟨valid, (openFresh_of_not_isNameable valid directory drawn willing unnameable).1⟩

/-- Settings are accepted with which no engine can be opened at any time: with a beginning of 300
letters every name is too long, although the directory is there. -/
theorem openFresh_fails_with_accepted_settings :
    let settings (stem : String) : Settings := ⟨"tmp", stem, 42, 2, false, "info"⟩
    let provisioner (stem : String) : Provisioner Source :=
      ⟨0, settings stem, .planned #[.pattern #[1]] 0⟩
    let long := String.ofList (List.replicate 300 'a')
    ∀ nanos, let world := World.fresh "tmp" nanos
      world.disk.isDirectory (.ofText "tmp") = true ∧ (settings long).validate = .ok () ∧
        ((dialogue openFresh (provisioner long)).run World.answer world).1.1 =
          .error (.failed (.io .nameTooLong)) := by
  intro settings provisioner long nanos world
  have directory : (⟨[(["tmp"], .directory)]⟩ : Disk).find (.ofText "tmp") =
      .ok (["tmp"], .directory) := by decide +kernel
  have settled (stem : String) (letters : stem.toList = List.replicate 300 'a') :
      (provisioner stem).settings.validate = .ok () ∧
        ((dialogue openFresh (provisioner stem)).run World.answer world).1.1 =
          .error (.failed (.io .nameTooLong)) := by
    have only {c : Char} (member : c ∈ stem.toList) : c = 'a' :=
      List.eq_of_mem_replicate (letters ▸ member)
    have size : stem.utf8ByteSize = 300 := by
      rw [utf8ByteSize_of_ascii fun c member => only member ▸ by decide, letters,
        List.length_replicate]
    have whole : '/' ∉ stem.toList := fun member => absurd (only member) (by decide)
    have plain : '\x00' ∉ stem.toList := fun member => absurd (only member) (by decide)
    have past : 255 < stem.utf8ByteSize := by omega
    exact openFresh_of_long_stem whole plain past directory rfl rfl
  exact ⟨Disk.isDirectory_eq_true_iff.mpr ⟨_, directory⟩, settled long String.toList_ofList⟩

end Provisioner

end StoreTrial
