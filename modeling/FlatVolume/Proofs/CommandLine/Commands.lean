/-
**What each command does to an image.**

`run_obeys`: a command on an image that keeps a dictionary answers what the dictionary says, or
fails for the reason that it gives, and the image then keeps the dictionary that is left. A command
that fails or only looks leaves the image the same byte for byte, and no command changes anything
else of the host.
-/

import FlatVolume.Proofs.CommandLine.Image

namespace FlatVolume

open BlockDevice

/-! ### What a volume tells about itself -/

section Report

variable {D : Type} [BlockDevice D] [FaithfulDevice D] {mounted : Mounted D} {archive : Archive}
  {dictionary : Dictionary}

/-- A slot is free, or there is a byte string in it. -/
theorem freeCount_add_length_entries (volume : Volume) (disk : Nat → Block) :
    volume.directory.freeCount + (volume.archive disk).entries.length = slotCount := by
  have all := List.length_eq_countP_add_countP
    (fun slot => decide (volume.directory.get slot).IsFree) (l := List.finRange slotCount)
  have taken : (volume.archive disk).entries.length = (List.finRange slotCount).countP
      fun slot => decide ¬ decide (volume.directory.get slot).IsFree = true := by
    rw [Archive.entries, List.length_filterMap_eq_countP]
    refine List.countP_congr fun slot _ => ?_
    by_cases free : (volume.directory.get slot).IsFree
    · simp [Volume.archive_files_of_free free, free]
    · simp [Volume.archive_files_of_occupied free, free]
  rw [List.length_finRange] at all
  rw [Directory.freeCount_eq, taken, ← all]

/-- What is told about the disk is told by the dictionary. -/
theorem info_eq (represents : mounted.Represents archive) (keeps : archive.Keeps dictionary)
    (size : numBlocks mounted.device = dictionary.totalBlocks) :
    mounted.volume.info = dictionary.info := by
  obtain ⟨sound, _, _, rfl⟩ := represents
  have valid := sound.volume.layout
  rw [size] at valid
  have data := valid.dataBlocks_eq
  have table := valid.table
  have start := valid.start
  rw [data] at table
  rw [valid.root, table] at start
  have slots := freeCount_add_length_entries mounted.volume (content mounted.device)
  have count : (mounted.volume.archive (content mounted.device)).entries.length =
      dictionary.files.length := keeps.entries.length_eq
  have left : mounted.volume.table.freeCount = dictionary.free := keeps.free_eq
  rw [Volume.info, Dictionary.info, valid.total, table, valid.root, table, start, data, left]
  congr 1
  omega

/-- The names and sizes that are listed are those in the slots. -/
theorem list_eq (represents : mounted.Represents archive) :
    mounted.volume.list.map (fun file => (file.name, file.size)) =
      archive.entries.map fun file => (file.1, file.2.length) := by
  obtain ⟨_, ⟨blocks, lays⟩, _, rfl⟩ := represents
  have hidden : mounted.volume.list.map (fun file => (file.name, file.size)) =
      (mounted.volume.list.map fun file => { file with first := .endOfChain }).map
        fun file => (file.name, file.size) := by
    rw [List.map_map]
    rfl
  rw [hidden, Mounted.list_mirrors lays, Archive.list, Archive.entries, List.map_filterMap,
    List.map_filterMap]
  simp only [Option.map_map]
  rfl

end Report

namespace CommandLine

open Console

variable {host : Host} {disk : String} {place : Place} {file : HostFile} {dictionary : Dictionary}

/-! ### How commands end -/

/-- The image keeps the dictionary. Under the condition it is the old one byte for byte. -/
structure Kept (file : HostFile) (dictionary : Dictionary) (same : Prop) (image : HostFile) :
    Prop where
  keeps : image.Keeps dictionary
  bytes : same → image.bytes = file.bytes

/-- The host after a command has another image at the place and is the same elsewhere. -/
def Left (host : Host) (place : Place) (file : HostFile) (dictionary : Dictionary) (same : Prop)
    (after : Host) : Prop :=
  ∃ image, host.Puts place image after ∧ Kept file dictionary same image

/-- The command ends as the dictionary says. -/
def Obeys (host : Host) (place : Place) (file : HostFile) (dictionary : Dictionary)
    (command : Command) (action : EStateM Failure (Console Host) Unit) : Prop :=
  Yields action ⟨host, []⟩
    (fun _ console => ∃ answer next, dictionary.carryOut host command = .ok (answer, next) ∧
      answer.IsOutput console.output ∧
      Left host place file next command.OnlyLooks console.system)
    (fun cause console => dictionary.carryOut host command = .error cause ∧ console.output = [] ∧
      Left host place file dictionary True console.system)

/-- Calls that change no block led from one device to the other. -/
structure Looked (before after : ImageFile) : Prop where
  content_eq : content after = content before
  follows : Follows before after

theorem Looked.trans {first second third : ImageFile} (left : Looked first second)
    (right : Looked second third) : Looked first third :=
  ⟨right.content_eq.trans left.content_eq, left.follows.trans right.follows⟩

/-- An image that was only looked at is the same. -/
theorem Looked.kept (keeps : file.Keeps dictionary) {after : ImageFile}
    (looked : Looked ⟨file, dictionary.totalBlocks⟩ after) (same : Prop) :
    Kept file dictionary same after.file := by
  obtain ⟨archive, archived, archiveKeeps⟩ := keeps.stored
  refine ⟨?_, fun _ => keeps.whole.bytes_eq looked.follows looked.content_eq⟩
  exact (keeps.whole.of_follows looked.follows).keeps
    (archived.of_follows looked.content_eq looked.follows) archiveKeeps

/-- A command obeys when the work on the volume that its image keeps does. -/
theorem onVolume_obeys (leads : host.placeFor disk = .ok place)
    (here : host.files[place]? = some file) (keeps : file.Keeps dictionary) {command : Command}
    {action : ImageAction Unit}
    (does : ∀ mounted archive, mounted.Represents archive → archive.Keeps dictionary →
      Looked ⟨file, dictionary.totalBlocks⟩ mounted.device →
      Yields action ⟨mounted, []⟩
        (fun _ inner => ∃ answer next, dictionary.carryOut host command = .ok (answer, next) ∧
          answer.IsOutput inner.output ∧
          Kept file next command.OnlyLooks inner.system.device.file)
        (fun reason inner => dictionary.carryOut host command = .error (.volume reason) ∧
          inner.printed = [] ∧ Looked mounted.device inner.system.device)) :
    Obeys host place file dictionary command (onVolume disk action) := by
  have works := onVolume_yields leads here keeps []
    fun mounted archive represents archiveKeeps same follows =>
      (does mounted archive represents archiveKeeps ⟨same, follows⟩).mono (fun _ _ ended => ended)
        fun _ _ ended => (⟨ended.1, ended.2.1, .trans ⟨same, follows⟩ ended.2.2⟩ :
          _ ∧ _ ∧ Looked ⟨file, dictionary.totalBlocks⟩ _)
  refine works.mono ?_ ?_
  · rintro _ after ⟨inner, ⟨answer, next, answered, output, kept⟩, puts, printed⟩
    refine ⟨answer, next, answered, ?_, _, puts, kept⟩
    rwa [Console.output, printed]
  · rintro cause after ⟨inner, reason, rfl, ⟨failed, silent, looked⟩, puts, printed⟩
    refine ⟨failed, ?_, _, puts, looked.kept keeps True⟩
    rw [Console.output, printed, silent]
    rfl

/-! ### Commands that only look -/

/-- What is printed at once is the output. -/
theorem output_single {S : Type} (system : S) (piece : Bytes) :
    Console.output ⟨system, [piece]⟩ = piece := by
  simp [Console.output]

/-- Work that asks for the volume goes on with the one that is mounted. -/
theorem yields_theVolume {α : Type} {rest : Volume → ImageAction α}
    {console : Console (Mounted ImageFile)} {success : α → Console (Mounted ImageFile) → Prop}
    {failure : VolumeError → Console (Mounted ImageFile) → Prop} :
    Yields (theVolume >>= rest) console success failure ↔
      Yields (rest console.system.volume) console success failure := Iff.rfl

section Looks

variable (leads : host.placeFor disk = .ok place) (here : host.files[place]? = some file)
  (keeps : file.Keeps dictionary)

include leads here keeps

theorem info_obeys : Obeys host place file dictionary (.info disk) (run (.info disk)) := by
  refine onVolume_obeys leads here keeps fun mounted archive represents archiveKeeps looked => ?_
  have size := (keeps.whole.of_follows looked.follows).numBlocks_eq
  refine ⟨_, _, rfl, ?_, looked.kept keeps _⟩
  show Console.output _ = _
  rw [output_single, info_eq represents archiveKeeps size]

theorem list_obeys : Obeys host place file dictionary (.list disk) (run (.list disk)) := by
  refine onVolume_obeys leads here keeps fun mounted archive represents archiveKeeps looked => ?_
  refine ⟨_, _, rfl, ⟨mounted.volume.list, output_single _ _, ?_⟩, looked.kept keeps _⟩
  rw [list_eq represents]
  exact archiveKeeps.entries.map _

theorem check_obeys : Obeys host place file dictionary (.check disk) (run (.check disk)) := by
  refine onVolume_obeys leads here keeps fun mounted archive represents archiveKeeps looked => ?_
  have checked := Volume.check_eq_ok_iff.mpr represents.lays
  have count : mounted.volume.list.length = dictionary.files.length := by
    have listed := congrArg List.length (list_eq represents)
    rw [List.length_map, List.length_map] at listed
    exact listed.trans archiveKeeps.entries.length_eq
  refine yields_theVolume.mpr (yields_bind.mpr (yields_settle (fun _ _ => ?_)
    fun cause failed => ?_))
  · refine ⟨_, _, rfl, ?_, looked.kept keeps _⟩
    show Console.output _ = _
    rw [output_single, count]
  · cases checked.symm.trans failed

/-- A command that opens a file goes on with the byte string of the name, or fails because there is
none. -/
theorem opened_obeys {command : Command} {name : String} (answer : Bytes → Answer)
    {rest : Nat → Nat → ImageAction Unit}
    (answered : ∀ bytes, dictionary.lookup name = .ok bytes →
      dictionary.carryOut host command = .ok (answer bytes, dictionary))
    (missing : ∀ cause, dictionary.lookup name = .error cause →
      dictionary.carryOut host command = .error (.volume cause))
    (goesOn : ∀ (mounted : Mounted ImageFile) (archive : Archive) (slot : Slot),
      mounted.Represents archive → archive.opened 0 = .ok ⟨slot, 0⟩ →
      Yields (rest 0 (archive.bytesIn slot).length) ⟨mounted, []⟩
        (fun _ inner => (answer (archive.bytesIn slot)).IsOutput inner.output ∧
          Looked mounted.device inner.system.device) (fun _ _ => False)) :
    Obeys host place file dictionary command (onVolume disk do
      let descriptor ← silent (Mounted.onVolume (Volume.openFile name))
      let size ← settle ((← theVolume).fileSize descriptor)
      rest descriptor size) := by
  refine onVolume_obeys leads here keeps fun mounted archive represents archiveKeeps looked => ?_
  refine yields_bind.mpr (yields_focus.mpr ((openFile_yields represents archiveKeeps name).mono
    ?_ ?_))
  · rintro descriptor opened ⟨slot, found, rfl, openedRepresents, device⟩
    have size := fileSize_eq openedRepresents rfl
    refine yields_theVolume.mpr (yields_bind.mpr (yields_settle (fun length isSize => ?_)
      fun cause failed => ?_))
    · obtain rfl := Except.ok.inj (isSize.symm.trans size)
      refine (goesOn opened _ slot openedRepresents rfl).mono ?_
        fun _ _ impossible => impossible.elim
      rintro _ inner ⟨output, innerLooked⟩
      refine ⟨_, _, answered _ found, output, (looked.trans ?_).kept keeps _⟩
      rwa [← device]
    · cases size.symm.trans failed
  · rintro cause opened ⟨notFound, device⟩
    refine ⟨missing cause notFound, rfl, ?_⟩
    show Looked mounted.device opened.device
    rw [device]
    exact ⟨rfl, .refl _⟩

theorem size_obeys (name : String) :
    Obeys host place file dictionary (.size disk name) (run (.size disk name)) := by
  refine opened_obeys leads here keeps (fun bytes =>
    .text s!"Size of file {quoted name} is {bytes.length} bytes\n") ?_ ?_ ?_
  · intro bytes found
    simp only [Dictionary.carryOut, found]
    rfl
  · intro cause missing
    simp only [Dictionary.carryOut, missing]
    rfl
  · intro mounted archive slot represents opened
    exact ⟨output_single _ _, rfl, .refl _⟩

theorem print_obeys (name : String) :
    Obeys host place file dictionary (.print disk name) (run (.print disk name)) := by
  refine opened_obeys leads here keeps .content ?_ ?_ ?_
  · intro bytes found
    simp only [Dictionary.carryOut, found]
    rfl
  · intro cause missing
    simp only [Dictionary.carryOut, missing]
    rfl
  · intro mounted archive slot represents opened
    refine (printRest_yields represents opened rfl (Nat.le_succ _)).mono ?_
      fun _ _ impossible => impossible
    rintro _ inner ⟨output, blocks, follows⟩
    exact ⟨output, blocks, follows⟩

end Looks

/-! ### Commands that change the image -/

/-- What is written back at the end is kept. -/
theorem finish_yields {mounted : Mounted ImageFile} {archive : Archive}
    (represents : mounted.Represents archive) (archiveKeeps : archive.Keeps dictionary)
    (whole : mounted.device.Whole dictionary.totalBlocks) :
    Yields finish mounted (fun _ after => after.device.file.Keeps dictionary)
      (fun _ _ => False) := by
  refine yields_bind.mpr (yields_get.mpr (yields_focus.mpr
    ((unmount_archived represents archiveKeeps.closed).mono ?_ fun _ _ impossible => impossible)))
  rintro _ after ⟨archived, follows⟩
  exact (whole.of_follows follows).keeps archived archiveKeeps

/-- A command that changes the volume and writes it back obeys when the change does. The number of
blocks must stay as it is. -/
theorem changed_obeys {α : Type} {command : Command}
    {change : EStateM VolumeError (Mounted ImageFile) α} {shown : α → String}
    (leads : host.placeFor disk = .ok place) (here : host.files[place]? = some file)
    (keeps : file.Keeps dictionary) (writes : ¬ command.OnlyLooks)
    (does : ∀ mounted archive, mounted.Represents archive → archive.Keeps dictionary →
      Yields change mounted
        (fun result after => ∃ next nextArchive,
          dictionary.carryOut host command = .ok (.text (shown result), next) ∧
          next.dataBlocks = dictionary.dataBlocks ∧ after.Represents nextArchive ∧
          nextArchive.Keeps next ∧ Follows mounted.device after.device)
        (fun reason after => dictionary.carryOut host command = .error (.volume reason) ∧
          after.device = mounted.device)) :
    Obeys host place file dictionary command (onVolume disk do
      let result ← silent change
      silent finish
      printText (shown result)) := by
  refine onVolume_obeys leads here keeps fun mounted archive represents archiveKeeps looked => ?_
  refine yields_bind.mpr (yields_focus.mpr ((does mounted archive represents archiveKeeps).mono
    ?_ ?_))
  · rintro result after ⟨next, nextArchive, answered, size, still, nextKeeps, follows⟩
    have whole := (keeps.whole.of_follows looked.follows).of_follows follows
    rw [← show next.totalBlocks = dictionary.totalBlocks by
      rw [Dictionary.totalBlocks, size, Dictionary.totalBlocks]] at whole
    refine yields_bind.mpr (yields_focus.mpr ((finish_yields still nextKeeps whole).mono ?_
      fun _ _ impossible => impossible.elim))
    intro _ final finalKeeps
    exact ⟨_, next, answered, output_single _ _, finalKeeps, fun only => absurd only writes⟩
  · rintro reason after ⟨refused, device⟩
    refine ⟨refused, rfl, ?_⟩
    show Looked mounted.device after.device
    rw [device]
    exact ⟨rfl, .refl _⟩

/-- Making an image leaves one with an empty dictionary. -/
theorem make_yields (leads : host.placeFor disk = .ok place) {dataBlocks : Nat}
    (fits : 1 ≤ dataBlocks ∧ 2 + tableBlocksFor dataBlocks + dataBlocks ≤ maxTotalBlocks) :
    Yields (run (.make disk dataBlocks)) ⟨host, []⟩
      (fun _ console => console.output =
          utf8Bytes s!"Created {quoted disk} with {dataBlocks} data blocks\n" ∧
        ∃ image, host.Puts place image console.system ∧ image.Keeps (.empty dataBlocks))
      (fun _ _ => False) := by
  refine yields_bind.mpr (yields_focus.mpr (yields_mapErrors.mpr
    ((Host.makeImage_yields leads fits.1 fits.2).mono ?_ fun _ _ impossible => impossible)))
  rintro _ after ⟨image, puts, imageKeeps⟩
  exact ⟨output_single _ _, image, puts, imageKeeps⟩

/-- An image that would be empty or too large is not made. -/
theorem make_yields_of_unfit (disk : String) (host : Host) {dataBlocks : Nat}
    (unfit : ¬ (1 ≤ dataBlocks ∧
      2 + tableBlocksFor dataBlocks + dataBlocks ≤ maxTotalBlocks)) :
    Yields (run (.make disk dataBlocks)) ⟨host, []⟩ (fun _ _ => False)
      (fun cause console => cause = .volume .invalidArgument ∧ console = ⟨host, []⟩) := by
  refine yields_bind.mpr (yields_focus.mpr (yields_mapErrors.mpr ?_))
  unfold Yields
  rw [Host.makeImage_of_unfit unfit]
  exact ⟨rfl, rfl⟩

section Changes

variable (leads : host.placeFor disk = .ok place) (here : host.files[place]? = some file)
  (keeps : file.Keeps dictionary)

include leads here keeps

theorem add_obeys (hostFile : String) (name : Option String) :
    Obeys host place file dictionary (.add disk hostFile name)
      (run (.add disk hostFile name)) := by
  refine yields_bind.mpr (yields_get.mpr (yields_bind.mpr (yields_mapErrors.mpr
    (yields_settle ?_ ?_))))
  · rintro ⟨source, data⟩ found
    refine changed_obeys leads here keeps id fun mounted archive represents archiveKeeps => ?_
    refine (storeFile_yields represents archiveKeeps _ _).mono ?_ ?_
    · rintro count after ⟨next, nextArchive, added, still, nextKeeps, follows⟩
      refine ⟨next, nextArchive, ?_, Dictionary.add_dataBlocks added, still, nextKeeps, follows⟩
      simp only [Dictionary.carryOut, found, added, Except.mapError, bind, Except.bind]
    · rintro reason after ⟨refused, device⟩
      refine ⟨?_, device⟩
      simp only [Dictionary.carryOut, found, refused, Except.mapError, bind, Except.bind]
  · intro cause missing
    refine ⟨?_, rfl, file, Host.puts_self here, keeps, fun _ => rfl⟩
    simp only [Dictionary.carryOut, missing, Except.mapError, bind, Except.bind]

theorem remove_obeys (name : String) :
    Obeys host place file dictionary (.remove disk name) (run (.remove disk name)) := by
  refine changed_obeys leads here keeps id fun mounted archive represents archiveKeeps => ?_
  refine (delete_yields represents archiveKeeps name).mono ?_ ?_
  · rintro _ after ⟨next, nextArchive, removed, still, nextKeeps, device⟩
    refine ⟨next, nextArchive, ?_, Dictionary.remove_dataBlocks removed, still, nextKeeps,
      device ▸ .refl _⟩
    simp only [Dictionary.carryOut, removed, Except.mapError, bind, Except.bind]
  · rintro reason after ⟨refused, device⟩
    refine ⟨?_, device⟩
    simp only [Dictionary.carryOut, refused, Except.mapError, bind, Except.bind]

theorem make_obeys (dataBlocks : Nat) :
    Obeys host place file dictionary (.make disk dataBlocks) (run (.make disk dataBlocks)) := by
  by_cases fits : 1 ≤ dataBlocks ∧ 2 + tableBlocksFor dataBlocks + dataBlocks ≤ maxTotalBlocks
  · refine (make_yields leads fits).mono ?_ fun _ _ impossible => impossible.elim
    rintro _ console ⟨output, image, puts, imageKeeps⟩
    exact ⟨_, _, if_pos fits, output, image, puts, imageKeeps, False.elim⟩
  · refine (make_yields_of_unfit disk host fits).mono (fun _ _ impossible => impossible.elim) ?_
    rintro cause console ⟨rfl, rfl⟩
    exact ⟨if_neg fits, rfl, file, Host.puts_self here, keeps, fun _ => rfl⟩

end Changes

/-- Every command on the image obeys. -/
theorem run_obeys {command : Command} (leads : host.placeFor command.image = .ok place)
    (here : host.files[place]? = some file) (keeps : file.Keeps dictionary) :
    Obeys host place file dictionary command (run command) := by
  cases command with
  | make disk dataBlocks => exact make_obeys leads here keeps dataBlocks
  | info disk => exact info_obeys leads here keeps
  | list disk => exact list_obeys leads here keeps
  | add disk hostFile name => exact add_obeys leads here keeps hostFile name
  | remove disk name => exact remove_obeys leads here keeps name
  | print disk name => exact print_obeys leads here keeps name
  | size disk name => exact size_obeys leads here keeps name
  | check disk => exact check_obeys leads here keeps

end CommandLine

end FlatVolume
