/-
**Dictionaries in image files.**

`HostFile.Keeps`: a host file is an image of the right length, and the archive on it keeps the
dictionary. `onVolume` mounts it, and what the action then leaves on the device is put back at the
same place (`onVolume_yields`). Making an image leaves one with an empty dictionary
(`makeImage_yields`), or is refused without a trace.
-/

import FlatVolume.Proofs.CommandLine.Work
import FlatVolume.Proofs.Host.Path

namespace FlatVolume

open BlockDevice

/-- The file is an image as large as the dictionary asks for, with an archive that keeps it. -/
structure HostFile.Keeps (file : HostFile) (dictionary : Dictionary) : Prop where
  whole : ImageFile.Whole dictionary.totalBlocks ⟨file, dictionary.totalBlocks⟩
  stored : ∃ archive, Archived (⟨file, dictionary.totalBlocks⟩ : ImageFile) archive ∧
    archive.Keeps dictionary

/-- What is on an image device is in its file. -/
theorem ImageFile.Whole.keeps {image : ImageFile} {dictionary : Dictionary} {archive : Archive}
    (whole : image.Whole dictionary.totalBlocks) (archived : Archived image archive)
    (keeps : archive.Keeps dictionary) : image.file.Keeps dictionary := by
  obtain ⟨file, numBlocks⟩ := image
  obtain rfl : numBlocks = dictionary.totalBlocks := whole.numBlocks_eq
  exact ⟨whole, archive, archived, keeps⟩

/-- What a file keeps, its bytes keep. -/
theorem HostFile.Keeps.of_bytes {file copy : HostFile} {dictionary : Dictionary}
    (keeps : file.Keeps dictionary) (same : copy.bytes = file.bytes) : copy.Keeps dictionary := by
  obtain ⟨archive, archived, archiveKeeps⟩ := keeps.stored
  obtain ⟨whole, blocks⟩ := keeps.whole.of_bytes same
  exact ⟨whole, archive, archived.congr whole.reliable rfl blocks, archiveKeeps⟩

namespace Host

variable {host : Host} {disk : String} {place : Place} {file : HostFile} {dictionary : Dictionary}

theorem imageFile_of_here (here : host.files[place]? = some file) (numBlocks : Nat) :
    host.imageFile ⟨place, numBlocks⟩ = ⟨file, numBlocks⟩ := by
  rw [imageFile, Std.TreeMap.getD_eq_getD_getElem?, here, Option.getD_some]

theorem openImage_eq (leads : host.placeFor disk = .ok place)
    (here : host.files[place]? = some file) (keeps : file.Keeps dictionary) :
    host.openImage disk = .ok ⟨place, dictionary.totalBlocks⟩ := by
  have size : file.size = dictionary.totalBlocks * blockSize := keeps.whole.size_eq
  have whole : file.size % blockSize = 0 := by rw [size, Nat.mul_mod_left]
  have blocks : file.size / blockSize = dictionary.totalBlocks := by
    rw [size, Nat.mul_div_cancel _ (by decide)]
  simp only [openImage, find_of_placeFor leads here, bind, Except.bind, if_pos whole, blocks]
  rfl

/-- Reading the volume of an image mounts what the image keeps. -/
theorem readVolume_yields (leads : host.placeFor disk = .ok place)
    (here : host.files[place]? = some file) (keeps : file.Keeps dictionary) :
    Yields (readVolume disk) host
      (fun result after => result.1 = ⟨place, dictionary.totalBlocks⟩ ∧
        ∃ (device : ImageFile) (archive : Archive),
        after = host.setFile place device.file ∧
        Mounted.Represents ⟨result.2, device⟩ archive ∧ archive.Keeps dictionary ∧
        content device = content (⟨file, dictionary.totalBlocks⟩ : ImageFile) ∧
        Follows ⟨file, dictionary.totalBlocks⟩ device) (fun _ _ => False) := by
  obtain ⟨archive, archived, archiveKeeps⟩ := keeps.stored
  have opened : openForVolume disk host = .ok ⟨place, dictionary.totalBlocks⟩ host := by
    rw [openForVolume, bind_apply, get_apply]
    simp only [openImage_eq leads here keeps]
    rfl
  refine yields_bind.mpr (yields_of_ok opened (yields_bind.mpr (yields_focus.mpr ?_)))
  rw [imageFile_of_here here]
  refine (mount_archived archived).mono ?_ fun _ _ impossible => impossible
  rintro volume device ⟨represents, same, follows⟩
  exact ⟨rfl, device, archive, rfl, represents, archiveKeeps, same, follows⟩

/-! ### Making an image -/

/-- An image of zeros is created where the path puts one. -/
theorem createImage_eq (leads : host.placeFor disk = .ok place) {numBlocks : Nat}
    (fits : numBlocks * blockSize ≤ maxFileBytes) :
    createImage disk numBlocks host = .ok ⟨place, numBlocks⟩
      ((host.setFile place (.blank 0)).setFile place (.blank (numBlocks * blockSize))) := by
  have created : create disk (.blank 0) host = .ok place (host.setFile place (.blank 0)) := by
    rw [create, bind_apply, get_apply]
    dsimp only
    rw [leads]
    rfl
  have zeros : (HostFile.blank 0).resize (numBlocks * blockSize) =
      .blank (numBlocks * blockSize) :=
    congrArg (HostFile.mk _) (if_neg (Nat.not_lt_zero _))
  rw [createImage, bind_apply, created]
  dsimp only
  rw [bind_apply, resizeFile, if_neg (Nat.not_lt.mpr fits), modify_apply, zeros]
  rfl

/-- An image that would be empty or too large is refused before the host sees its path. -/
theorem makeImage_of_unfit {dataBlocks : Nat} (unfit : ¬ (1 ≤ dataBlocks ∧
      2 + tableBlocksFor dataBlocks + dataBlocks ≤ maxTotalBlocks)) (disk : String) (host : Host) :
    makeImage disk dataBlocks host = .error .invalidArgument host := by
  have none : SuperBlock.totalBlocksFor? dataBlocks = none := if_neg unfit
  rw [makeImage, none]
  rfl

/-- An image is made with an empty dictionary. -/
theorem makeImage_yields (leads : host.placeFor disk = .ok place) {dataBlocks : Nat}
    (positive : 1 ≤ dataBlocks)
    (fits : 2 + tableBlocksFor dataBlocks + dataBlocks ≤ maxTotalBlocks) :
    Yields (makeImage disk dataBlocks) host
      (fun _ after => ∃ file, host.Puts place file after ∧ file.Keeps (.empty dataBlocks))
      (fun _ _ => False) := by
  have total : SuperBlock.totalBlocksFor? dataBlocks =
      some (2 + tableBlocksFor dataBlocks + dataBlocks) := if_pos ⟨positive, fits⟩
  have small : (2 + tableBlocksFor dataBlocks + dataBlocks) * blockSize ≤ maxFileBytes := by
    simp only [maxTotalBlocks] at fits
    simp only [blockSize, maxFileBytes]
    omega
  have created := createImage_eq leads small
  have put := (host.puts_setFile place (.blank 0)).trans (puts_setFile _ place
    (.blank ((2 + tableBlocksFor dataBlocks + dataBlocks) * blockSize)))
  let device : ImageFile := ⟨.blank ((2 + tableBlocksFor dataBlocks + dataBlocks) * blockSize),
    2 + tableBlocksFor dataBlocks + dataBlocks⟩
  have whole : device.Whole (2 + tableBlocksFor dataBlocks + dataBlocks) := ⟨rfl, rfl⟩
  obtain ⟨layout, divided⟩ := SuperBlock.exists_forDisk positive fits
  have size := (SuperBlock.forDisk_valid divided).dataBlocks_eq
  rw [makeImage, total]
  refine yields_bind.mpr (yields_mapErrors.mpr (yields_of_ok created (yields_focus.mpr ?_)))
  rw [imageFile_of_here put.here]
  refine (format_archived whole.reliable divided).mono ?_ fun _ _ impossible => impossible
  rintro _ after ⟨archived, follows⟩
  rw [size] at archived
  have still : after.Whole (Dictionary.empty dataBlocks).totalBlocks := whole.of_follows follows
  exact ⟨after.file, put.trans (puts_setFile ..),
    still.keeps archived (Archive.keeps_empty positive)⟩

end Host

namespace CommandLine

variable {host : Host} {disk : String} {place : Place} {file : HostFile} {dictionary : Dictionary}

/-- A command that works on an image works on the volume that the image keeps, and puts the image
back in its place. -/
theorem onVolume_yields (leads : host.placeFor disk = .ok place)
    (here : host.files[place]? = some file) (keeps : file.Keeps dictionary) {α : Type}
    {action : ImageAction α} (printed : List Bytes)
    {success : α → Console (Mounted ImageFile) → Prop}
    {failure : VolumeError → Console (Mounted ImageFile) → Prop}
    (does : ∀ mounted archive, mounted.Represents archive → archive.Keeps dictionary →
      content mounted.device = content (⟨file, dictionary.totalBlocks⟩ : ImageFile) →
      Follows ⟨file, dictionary.totalBlocks⟩ mounted.device →
      Yields action ⟨mounted, printed⟩ success failure) :
    Yields (onVolume disk action) ⟨host, printed⟩
      (fun result after => ∃ inner, success result inner ∧
        host.Puts place inner.system.device.file after.system ∧ after.printed = inner.printed)
      (fun cause after => ∃ inner reason, cause = .volume reason ∧ failure reason inner ∧
        host.Puts place inner.system.device.file after.system ∧
        after.printed = inner.printed) := by
  refine yields_bind.mpr (yields_focus.mpr (yields_mapErrors.mpr
    ((Host.readVolume_yields leads here keeps).mono ?_ fun _ _ impossible => impossible.elim)))
  rintro ⟨image, volume⟩ after
    ⟨isImage, device, archive, rfl, represents, archiveKeeps, same, follows⟩
  obtain rfl : image = ⟨place, dictionary.totalBlocks⟩ := isImage
  have first := host.puts_setFile place device.file
  have again : (host.setFile place device.file).imageFile ⟨place, dictionary.totalBlocks⟩ =
      device := by
    rw [Host.imageFile_of_here first.here, ← (keeps.whole.of_follows follows).numBlocks_eq]
  refine yields_focus.mpr (yields_mapErrors.mpr ?_)
  simp only [again]
  refine (does ⟨volume, device⟩ archive represents archiveKeeps same follows).mono ?_ ?_
  · exact fun _ inner ended => ⟨inner, ended, first.trans (Host.puts_setFile ..), rfl⟩
  · exact fun reason inner ended =>
      ⟨inner, reason, rfl, ended, first.trans (Host.puts_setFile ..), rfl⟩

end CommandLine

end FlatVolume
