/-
**Image files as devices.**

An image file keeps what is written to it, and a call that fails transfers nothing
(`FaithfulDevice ImageFile`). A file that is as long as its blocks (`Whole`) is reliable, and calls
make it neither longer nor shorter (`Whole.of_follows`). So a volume on it changes the file only
where it changes a block (`bytes_congr`).
-/

import FlatVolume.Host.Image
import FlatVolume.Proofs.File.Frame
import FlatVolume.Proofs.Storage.Rows

namespace FlatVolume

open BlockDevice

/-- The bytes of a file are those of its blocks up to its length. -/
theorem HostFile.bytes_congr {first second : HostFile} (size : second.size = first.size)
    (blocks : second.medium.block = first.medium.block) : second.bytes = first.bytes := by
  unfold HostFile.bytes HostFile.read Medium.read
  rw [size, blocks]

/-- A file has as many bytes as its size says. -/
theorem HostFile.length_bytes (file : HostFile) : file.bytes.length = file.size := by
  have pieces : file.bytes.length = ((spans 0 file.size).map Span.length).sum := by
    rw [bytes, read, Nat.sub_zero, Nat.min_self, Medium.read, List.length_flatMap]
    refine congrArg List.sum (List.map_congr_left fun span member => ?_)
    rw [ByteField.length_slice]
    have := Span.fits member
    omega
  rw [pieces, length_spans]

namespace ImageFile

instance : FaithfulDevice ImageFile where
  content image := image.file.medium.block
  readBlock_yields block image := by
    simp only [Yields, readBlock]
    cases checkRequest image.numBlocks block blockSize with
    | error cause => exact ⟨rfl, rfl⟩
    | ok _ =>
      by_cases short : image.file.size < (block + 1) * blockSize
      · simp only [if_pos short, and_self]
      · simp only [if_neg short, and_self]
  writeBlock_yields block value image := by
    simp only [Yields, writeBlock]
    cases checkRequest image.numBlocks block blockSize with
    | error cause => exact ⟨fun _ _ => rfl, rfl⟩
    | ok _ =>
      refine ⟨funext fun other => ?_, rfl⟩
      rw [Medium.block_setBlock, Function.update_apply]
      simp only [eq_comm]
  flush_yields _ := ⟨rfl, rfl⟩
  writeBlock_fails block value image := by
    simp only [Yields, writeBlock]
    cases checkRequest image.numBlocks block blockSize with
    | error cause => exact rfl
    | ok _ => trivial

/-- The file has the given number of blocks and not a byte more or less. -/
structure Whole (numBlocks : Nat) (image : ImageFile) : Prop where
  numBlocks_eq : image.numBlocks = numBlocks
  size_eq : image.file.size = numBlocks * blockSize

section Whole

variable {numBlocks : Nat} {image : ImageFile}

/-- A request is refused for a block behind the file, and any other block lies in it. -/
theorem Whole.checkRequest_cases (whole : image.Whole numBlocks) (block : Nat) :
    (∃ cause, checkRequest image.numBlocks block blockSize = .error cause ∧ numBlocks ≤ block) ∨
    checkRequest image.numBlocks block blockSize = .ok () ∧
      (block + 1) * blockSize ≤ image.file.size := by
  rw [whole.numBlocks_eq, whole.size_eq]
  by_cases inside : block < numBlocks
  · refine .inr ⟨checkRequest_eq_ok_iff.mpr ⟨inside, rfl⟩, ?_⟩
    exact Nat.mul_le_mul_right blockSize inside
  · have outside := Nat.le_of_not_lt inside
    exact .inl ⟨_, if_pos outside, outside⟩

/-- Reading never changes the file, and it fails only outside of it. -/
theorem Whole.readBlock_yields (whole : image.Whole numBlocks) (block : Nat) :
    Yields (readBlock block) image (fun _ after => after.Whole numBlocks)
      (fun _ after => numBlocks ≤ block ∧ after.Whole numBlocks) := by
  rcases whole.checkRequest_cases block with ⟨cause, refused, outside⟩ | ⟨taken, long⟩
  · simp only [Yields, readBlock, refused]
    exact ⟨outside, whole⟩
  · simp only [Yields, readBlock, taken, if_neg (Nat.not_lt.mpr long)]
    exact whole

/-- Writing never changes how long the file is, and it fails only outside of it. -/
theorem Whole.writeBlock_yields (whole : image.Whole numBlocks) (block : Nat) (value : Block) :
    Yields (writeBlock block value) image (fun _ after => after.Whole numBlocks)
      (fun _ after => numBlocks ≤ block ∧ after.Whole numBlocks) := by
  rcases whole.checkRequest_cases block with ⟨cause, refused, outside⟩ | ⟨taken, long⟩
  · simp only [Yields, writeBlock, refused]
    exact ⟨outside, whole⟩
  · simp only [Yields, writeBlock, taken]
    exact ⟨whole.numBlocks_eq, (Nat.max_eq_left long).trans whole.size_eq⟩

/-- A file of whole blocks takes every call on its blocks. -/
theorem Whole.reliable (whole : image.Whole numBlocks) : Reliable image := by
  refine ⟨Whole numBlocks, whole, fun image whole => ⟨fun block => ?_, fun block value => ?_, ?_⟩⟩
  · exact (whole.readBlock_yields block).mono (fun _ _ still => still)
      fun _ _ ended => ⟨Nat.le_trans (Nat.le_of_eq whole.numBlocks_eq) ended.1, ended.2⟩
  · exact (whole.writeBlock_yields block value).mono (fun _ _ still => still)
      fun _ _ ended => ⟨Nat.le_trans (Nat.le_of_eq whole.numBlocks_eq) ended.1, ended.2⟩
  · exact whole

/-- Calls keep a file as long as it is. -/
theorem Whole.of_follows (whole : image.Whole numBlocks) {after : ImageFile}
    (follows : Follows image after) : after.Whole numBlocks := by
  refine follows.inherits (Whole numBlocks) (fun image whole => ⟨fun block => ?_,
    fun block value => ?_, whole⟩) whole
  · exact (whole.readBlock_yields block).leaves (fun _ _ still => still) fun _ _ ended => ended.2
  · exact (whole.writeBlock_yields block value).leaves (fun _ _ still => still)
      fun _ _ ended => ended.2

/-- A file whose blocks are the same after some calls is the same byte for byte. -/
theorem Whole.bytes_eq (whole : image.Whole numBlocks) {after : ImageFile}
    (follows : Follows image after) (same : content after = content image) :
    after.file.bytes = image.file.bytes :=
  HostFile.bytes_congr ((whole.of_follows follows).size_eq.trans whole.size_eq.symm) same

/-- The bytes of the file are those of its blocks. -/
theorem Whole.bytes_eq_flatMap (whole : image.Whole numBlocks) :
    image.file.bytes = (List.range numBlocks).flatMap fun block =>
      (content image block).bytes := by
  have pieces : spans 0 (numBlocks * blockSize) =
      (List.range numBlocks).map fun index => ⟨index, 0, blockSize⟩ := by
    by_cases none : numBlocks = 0
    · subst none
      rfl
    · have first : blocksFor (0 + numBlocks * blockSize) - 0 / blockSize = numBlocks := by
        simp only [blocksFor, blockSize]
        omega
      rw [spans, if_neg (Nat.mul_ne_zero none (by decide))]
      dsimp only
      rw [first, Nat.zero_div, List.range_eq_range']
      refine List.map_congr_left fun index member => ?_
      have below := List.mem_range'_1.mp member
      simp only [Span.cut, Span.mk.injEq, blockSize, true_and]
      omega
  rw [HostFile.bytes, HostFile.read, Nat.sub_zero, Nat.min_self, whole.size_eq, Medium.read, pieces,
    List.flatMap_map]
  refine List.flatMap_congr fun index _ => ?_
  rw [ByteField.slice, List.drop_zero]
  exact List.take_of_length_le (Nat.le_of_eq (ByteField.length_eq _))

/-- A file with the bytes of an image is one, with the same blocks. -/
theorem Whole.of_bytes (whole : image.Whole numBlocks) {file : HostFile}
    (same : file.bytes = image.file.bytes) :
    Whole numBlocks ⟨file, numBlocks⟩ ∧
      ∀ block < numBlocks, file.medium.block block = content image block := by
  have copy : Whole numBlocks ⟨file, numBlocks⟩ := by
    refine ⟨rfl, ?_⟩
    rw [← whole.size_eq, ← HostFile.length_bytes, ← HostFile.length_bytes, same]
  refine ⟨copy, fun block inside => ByteField.ext ?_⟩
  have found : (List.range numBlocks)[block]? = some block := List.getElem?_range inside
  have rows (disk : Nat → Block) : ∀ block ∈ List.range numBlocks,
      (disk block).bytes.length = blockSize := fun _ _ => ByteField.length_eq _
  have cut := take_drop_flatMap_rows (rows (content image)) found
  rw [← whole.bytes_eq_flatMap, ← same, copy.bytes_eq_flatMap] at cut
  exact (take_drop_flatMap_rows (rows (content (⟨file, numBlocks⟩ : ImageFile))) found).symm.trans
    cut

end Whole

end ImageFile

end FlatVolume
