/-
**Guarded reading and writing.**

A file is read and written in a loop that goes from one position to the next, one piece of a block
in each round (`readLoop`, `writeLoop`). A piece is in bounds (`InBounds`) when no number is taken
from a smaller one and the piece lies inside its block and inside the caller's buffer. The device is
handed buffers of one block only.

`At offset stop index position`: the loop has come to the block `index` of the range. From there the
rounds are the pieces that `spansFrom` lists (`readLoop_safe`, `writeLoop_safe`), and there are not
more of them than bytes.

`writeFile` relies on an offset inside the file, and on nothing else.
-/

import FlatVolume.File.Read
import FlatVolume.File.Write
import FlatVolume.Proofs.Chain.Cutting
import FlatVolume.Proofs.File.Read
import FlatVolume.Proofs.Guarded.Table

namespace FlatVolume.Guarded

/-! ### Rounds -/

/-- How many bytes from the position on lie in one block and before `stop`. -/
def pieceLength (stop position : Nat) : Nat :=
  min (blockSize - position % blockSize) (stop - position)

/-- The piece at the position lies inside its block, and inside a buffer of `capacity` bytes for the
range from `offset` to `stop`. -/
def InBounds (offset stop capacity position : Nat) : Prop :=
  position % blockSize ≤ blockSize ∧ position ≤ stop ∧ offset ≤ position ∧
    position - offset + pieceLength stop position ≤ capacity ∧
    position % blockSize + pieceLength stop position ≤ blockSize

instance (offset stop capacity position : Nat) :
    Decidable (InBounds offset stop capacity position) :=
  inferInstanceAs (Decidable (_ ∧ _))

/-- The loop over the range from `offset` to `stop` has come to the block `index`. -/
structure At (offset stop index position : Nat) : Prop where
  position_eq : position = max offset (index * blockSize)
  before : offset < (index + 1) * blockSize
  inside : position < stop

section At

variable {offset stop index position : Nat}

theorem At.start (some : offset < stop) : At offset stop (offset / blockSize) offset := by
  refine ⟨?_, ?_, some⟩ <;>
  · simp only [blockSize]
    omega

theorem At.inBounds (here : At offset stop index position) {capacity : Nat}
    (room : stop - offset ≤ capacity) : InBounds offset stop capacity position := by
  obtain ⟨rfl, before, inside⟩ := here
  simp only [InBounds, pieceLength, blockSize] at *
  omega

theorem At.skip_eq (here : At offset stop index position) :
    position % blockSize = (Span.cut offset stop index).skip := by
  obtain ⟨rfl, before, inside⟩ := here
  simp only [Span.cut, blockSize] at *
  omega

theorem At.length_eq (here : At offset stop index position) :
    pieceLength stop position = (Span.cut offset stop index).length := by
  obtain ⟨rfl, before, inside⟩ := here
  simp only [Span.cut, pieceLength, blockSize] at *
  omega

theorem At.index_eq (here : At offset stop index position) : position / blockSize = index := by
  obtain ⟨rfl, before, inside⟩ := here
  simp only [blockSize] at *
  omega

/-- The loop is over at the end of the block or goes on in the next one. -/
theorem At.ends_iff (here : At offset stop index position) :
    position + pieceLength stop position = stop ↔ blocksFor stop ≤ index + 1 := by
  obtain ⟨rfl, before, inside⟩ := here
  simp only [pieceLength, blocksFor, blockSize] at *
  omega

theorem At.next (here : At offset stop index position) (more : index + 1 < blocksFor stop) :
    At offset stop (index + 1) (position + pieceLength stop position) := by
  have further := lt_blocksFor_iff.mp more
  obtain ⟨place, before, inside⟩ := here
  refine ⟨?_, Nat.lt_of_lt_of_le before (Nat.mul_le_mul_right _ (Nat.le_succ _)), ?_⟩ <;>
  · simp only [pieceLength, blockSize] at *
    omega

end At

/-- A range has not more pieces than bytes. -/
theorem count_lt_of_reaches {offset stop count : Nat} (some : offset < stop)
    (reaches : offset / blockSize + (count + 1) = blocksFor stop) : count < stop - offset := by
  simp only [blocksFor, blockSize] at reaches
  omega

/-! ### Reading -/

section Read

variable {D : Type} [BlockDevice D]

/-- Reads a block into a buffer of the given length. -/
def fetchInto (length block : Nat) : EStateM Halt D Block := do
  settle (require (length = blockSize))
  reported (fetchBlock block)

/-- Reads the block of a piece into the caller's buffer if the piece is all of the block, and into a
buffer of one block otherwise. -/
def fetchPiece (length block : Nat) : EStateM Halt D Block :=
  if length = blockSize then fetchInto length block else fetchInto blockSize block

/-- Reads the piece at each position in turn, the first of them in `block`. -/
def readLoop (layout : SuperBlock) (table : Table) (offset stop capacity : Nat) :
    (rounds position : Nat) → (block : BlockId) → EStateM Halt D Bytes
  | 0, _, _ => throw .panicked
  | rounds + 1, position, block => do
    settle (require (InBounds offset stop capacity position))
    let length := pieceLength stop position
    let content ← fetchPiece length (layout.dataBlock block)
    let part := content.slice (position % blockSize) length
    if position + length = stop then return part
    let block ← settle (following table block)
    return part ++ (← readLoop layout table offset stop capacity rounds (position + length) block)

/-- Reads up to `length` bytes of a file from `offset` on, as far as the file goes. -/
def readFile (layout : SuperBlock) (table : Table) (entry : DirEntry) (offset length : Nat) :
    EStateM Halt D Bytes := do
  if positionLimit ≤ offset + length then throw (.reported .invalidArgument)
  let stop := min (offset + length) entry.size.toNat
  if stop ≤ offset then return []
  let block ← settle (blockAt table entry.first offset)
  readLoop layout table offset stop length (stop - offset) offset block

theorem fetchInto_safe (block : Nat) (device : D) :
    Safe (fetchInto blockSize block) (fetchBlock block) device :=
  Safe.require_bind rfl (safe_reported _ device)

theorem fetchPiece_safe (length block : Nat) (device : D) :
    Safe (fetchPiece length block) (fetchBlock block) device := by
  unfold fetchPiece
  by_cases whole : length = blockSize
  · rw [if_pos whole, whole]
    exact fetchInto_safe block device
  · rw [if_neg whole]
    exact fetchInto_safe block device

variable {offset stop capacity : Nat}

/-- The rounds of a read are the pieces of the range. -/
theorem readLoop_safe (layout : SuperBlock) (table : Table) (room : stop - offset ≤ capacity)
    {index count rounds position : Nat} (here : At offset stop index position)
    (reaches : index + (count + 1) = blocksFor stop) (enough : count < rounds) (block : BlockId)
    (device : D) :
    Safe (readLoop layout table offset stop capacity rounds position block)
      (readSpans layout table (spansFrom offset stop index (count + 1)) block) device := by
  induction count generalizing index rounds position block device with
  | zero =>
    obtain ⟨rounds, rfl⟩ := Nat.exists_eq_add_of_lt enough
    rw [Nat.zero_add, readLoop]
    refine Safe.require_bind (here.inBounds room) ?_
    dsimp only
    refine (fetchPiece_safe _ _ device).bind fun content after _ => ?_
    rw [if_pos (here.ends_iff.mpr (by omega)), here.skip_eq, here.length_eq]
    exact safe_pure _ after
  | succ count hypothesis =>
    obtain ⟨rounds, rfl⟩ : ∃ rest, rounds = rest + 1 := ⟨rounds - 1, by omega⟩
    rw [readLoop]
    refine Safe.require_bind (here.inBounds room) ?_
    dsimp only
    refine (fetchPiece_safe _ _ device).bind fun content fetched _ => ?_
    rw [if_neg (mt here.ends_iff.mp (by omega)), here.skip_eq]
    refine Safe.settle_bind (following_eq table block) fun following _ => ?_
    refine Safe.bind (hypothesis (here.next (by omega)) (by omega) (by omega) following fetched) ?_
    intro data after _
    rw [here.length_eq]
    exact safe_pure _ after

theorem readFile_safe (layout : SuperBlock) (table : Table) (entry : DirEntry)
    (offset length : Nat) (device : D) :
    Safe (readFile layout table entry offset length)
      (FlatVolume.readFile layout table entry offset length) device := by
  unfold readFile FlatVolume.readFile
  by_cases endless : positionLimit ≤ offset + length
  · rw [if_pos endless, if_pos endless]
    exact safe_throw .invalidArgument device
  rw [if_neg endless, if_neg endless]
  dsimp only
  by_cases nothing : min (offset + length) entry.size.toNat ≤ offset
  · rw [if_pos nothing, if_pos nothing]
    exact safe_pure [] device
  rw [if_neg nothing, if_neg nothing]
  refine Safe.settle_bind (blockAt_eq table entry.first offset) fun block _ => ?_
  have some : 0 < min (offset + length) entry.size.toNat - offset := by omega
  have stop : offset + (min (offset + length) entry.size.toNat - offset) =
      min (offset + length) entry.size.toNat := by omega
  obtain ⟨count, pieces, reaches⟩ := spans_eq offset some
  rw [stop] at pieces reaches
  rw [pieces]
  refine readLoop_safe layout table (by omega) (.start (by omega)) reaches ?_ block device
  exact count_lt_of_reaches (by omega) reaches

end Read

/-! ### Writing -/

section Write

variable {D : Type} [BlockDevice D]

/-- Writes a block from a buffer of the given length. -/
def storeFrom (length block : Nat) (content : Block) : EStateM Halt D Unit := do
  settle (require (length = blockSize))
  reported (storeBlock block content)

/-- Writes one piece of data into its block. -/
def storePiece (layout : SuperBlock) (fresh position : Nat) (part : Bytes) (block : BlockId) :
    EStateM Halt D Unit := do
  let target := layout.dataBlock block
  if part.length = blockSize then storeFrom part.length target (.ofBytes blockSize part)
  else
    let old ← if position / blockSize < fresh then fetchInto blockSize target
      else pure (.zero blockSize)
    storeFrom blockSize target (old.overlay (position % blockSize) part)

/-- Writes the piece at each position in turn, the first of them into `block`. -/
def writeLoop (layout : SuperBlock) (table : Table) (fresh offset stop : Nat) (data : Bytes) :
    (rounds position : Nat) → (block : BlockId) → EStateM Halt D Unit
  | 0, _, _ => throw .panicked
  | rounds + 1, position, block => do
    settle (require (InBounds offset stop data.length position))
    let length := pieceLength stop position
    storePiece layout fresh position ((data.drop (position - offset)).take length) block
    if position + length = stop then return ()
    let block ← settle (following table block)
    writeLoop layout table fresh offset stop data rounds (position + length) block

/-- Writes data over the bytes from `offset` on of a chain. -/
def writeChain (layout : SuperBlock) (table : Table) (first : BlockId) (fresh offset : Nat)
    (data : Bytes) : EStateM Halt D Unit := do
  let block ← settle (blockAt table first offset)
  writeLoop layout table fresh offset (offset + data.length) data data.length offset block

/-- An action on the table. -/
def onTable {α : Type} (action : EStateM Halt Table α) : EStateM Halt (FileStore D) α :=
  focus FileStore.table (fun table store => { store with table }) action

/-- Writes data into a file from `offset` on and returns how many bytes of it found space. -/
def writeFile (layout : SuperBlock) (offset : Nat) (data : Bytes) :
    EStateM Halt (FileStore D) Nat := do
  let entry := (← get).entry
  settle (require (offset ≤ entry.size.toNat))
  if data = [] then return 0
  if maxFileSize < offset + data.length then throw (.reported .invalidArgument)
  let oldBlocks := blocksFor entry.size.toNat
  let chain ← onTable (grow ⟨entry.first, oldBlocks⟩ (blocksFor (offset + data.length)))
  reported (FileStore.setFirst chain.head)
  settle (require (chain.length * blockSize < positionLimit))
  let stop := min (offset + data.length) (chain.length * blockSize)
  if stop ≤ offset then return 0
  settle (require (stop - offset ≤ data.length))
  recover
    (do
      let table := (← get).table
      focus FileStore.device (fun device store => { store with device })
        (writeChain layout table chain.head oldBlocks offset (data.take (stop - offset))))
    fun cause => do
      let head ← onTable (truncate chain.head oldBlocks)
      reported (FileStore.setFirst head)
      throw (.reported cause)
  reported (FileStore.resize (max entry.size.toNat stop))
  return stop - offset

theorem storeFrom_safe (block : Nat) (content : Block) (device : D) :
    Safe (storeFrom blockSize block content) (storeBlock block content) device :=
  Safe.require_bind rfl (safe_reported _ device)

variable {offset stop index position : Nat}

/-- A piece that is all of its block is written as it is, without zeros below it. -/
theorem storePiece_safe (layout : SuperBlock) (fresh : Nat) (here : At offset stop index position)
    {part : Bytes} (length : part.length = pieceLength stop position) (block : BlockId)
    (device : D) :
    Safe (storePiece layout fresh position part block)
      (writeSpan layout fresh (Span.cut offset stop index) part block) device := by
  unfold storePiece writeSpan
  dsimp only
  by_cases whole : part.length = blockSize
  · have isWhole : (Span.cut offset stop index).IsWhole := by
      rw [Span.IsWhole, ← here.length_eq, ← length, whole]
    have skip : (Span.cut offset stop index).skip = 0 := by
      rw [← here.skip_eq]
      rw [length, pieceLength] at whole
      have size : 0 < blockSize := by decide
      omega
    have covered : (ByteField.zero blockSize).overlay 0 part = .ofBytes blockSize part := by
      conv_lhs => rw [← ByteField.bytes_ofBytes_of_length whole]
      exact ByteField.overlay_whole _ _
    rw [if_pos whole, if_pos (.inl isWhole), skip, whole]
    show Safe _ (storeBlock _ ((ByteField.zero blockSize).overlay 0 part)) device
    rw [covered]
    exact storeFrom_safe _ _ device
  · have notWhole : ¬ (Span.cut offset stop index).IsWhole := by
      rw [Span.IsWhole, ← here.length_eq, ← length]
      exact whole
    have reused : (Span.cut offset stop index).index = position / blockSize := here.index_eq.symm
    rw [if_neg whole, reused, ← here.skip_eq]
    by_cases old : position / blockSize < fresh
    · rw [if_pos old, if_neg (not_or.mpr ⟨notWhole, Nat.not_le.mpr old⟩)]
      refine (fetchInto_safe _ device).bind fun content fetched _ => ?_
      exact storeFrom_safe _ _ fetched
    · rw [if_neg old, if_pos (.inr (Nat.le_of_not_lt old))]
      exact (safe_pure _ device).bind fun content after _ => storeFrom_safe _ _ after

/-- The piece gets its part of the data. -/
theorem storePart_safe (layout : SuperBlock) (fresh : Nat) {data : Bytes}
    (here : At offset stop index position) (room : stop - offset ≤ data.length) (block : BlockId)
    (device : D) :
    Safe
      (storePiece layout fresh position
        ((data.drop (position - offset)).take (pieceLength stop position)) block)
      (writeSpan layout fresh (Span.cut offset stop index)
        ((data.drop (position - offset)).take (Span.cut offset stop index).length) block)
      device := by
  rw [← here.length_eq]
  refine storePiece_safe layout fresh here ?_ block device
  obtain ⟨_, _, _, buffer, _⟩ := here.inBounds room
  rw [List.length_take, List.length_drop]
  omega

/-- The rounds of a write are the pieces of the range. -/
theorem writeLoop_safe (layout : SuperBlock) (table : Table) (fresh : Nat) {data : Bytes}
    (room : stop - offset ≤ data.length) {count rounds : Nat} (here : At offset stop index position)
    (reaches : index + (count + 1) = blocksFor stop) (enough : count < rounds) (block : BlockId)
    (device : D) :
    Safe (writeLoop layout table fresh offset stop data rounds position block)
      (writeSpans layout table fresh (spansFrom offset stop index (count + 1))
        (data.drop (position - offset)) block) device := by
  induction count generalizing index rounds position block device with
  | zero =>
    obtain ⟨rounds, rfl⟩ := Nat.exists_eq_add_of_lt enough
    rw [Nat.zero_add, writeLoop]
    refine Safe.require_bind (here.inBounds room) ?_
    dsimp only
    rw [if_pos (here.ends_iff.mpr (by omega)), bind_pure_unit]
    exact storePart_safe layout fresh here room block device
  | succ count hypothesis =>
    obtain ⟨rounds, rfl⟩ : ∃ rest, rounds = rest + 1 := ⟨rounds - 1, by omega⟩
    rw [writeLoop]
    refine Safe.require_bind (here.inBounds room) ?_
    dsimp only
    rw [if_neg (mt here.ends_iff.mp (by omega))]
    refine (storePart_safe layout fresh here room block device).bind fun _ stored _ => ?_
    refine Safe.settle_bind (following_eq table block) fun following _ => ?_
    have rest := hypothesis (here.next (by omega)) (by omega) (by omega : count < rounds) following
      stored
    have after : position + pieceLength stop position - offset =
        position - offset + pieceLength stop position := by
      have start := here.position_eq
      omega
    rw [after, ← List.drop_drop, here.length_eq] at rest
    rw [here.length_eq]
    exact rest

theorem writeChain_safe (layout : SuperBlock) (table : Table) (first : BlockId)
    (fresh offset : Nat) {data : Bytes} (some : data ≠ []) (device : D) :
    Safe (writeChain layout table first fresh offset data)
      (FlatVolume.writeChain layout table first fresh offset data) device := by
  have positive : 0 < data.length := List.length_pos_of_ne_nil some
  unfold writeChain FlatVolume.writeChain
  refine Safe.settle_bind (blockAt_eq table first offset) fun block _ => ?_
  obtain ⟨count, pieces, reaches⟩ := spans_eq offset positive
  have rounds := count_lt_of_reaches (by omega) reaches
  have room : offset + data.length - offset ≤ data.length := by omega
  have written := writeLoop_safe layout table fresh room (.start (by omega)) reaches
    (by omega : count < data.length) block device
  rw [Nat.sub_self, List.drop_zero] at written
  rw [pieces]
  exact written

omit [BlockDevice D] in
theorem Safe.onTable {α : Type} {guarded : EStateM Halt Table α}
    {plain : EStateM VolumeError Table α} {store : FileStore D}
    (safe : Safe guarded plain store.table) :
    Safe (onTable guarded) (FileStore.onTable plain) store := safe.focus

/-- The length that growth returns is the old one or the wanted one, or less. -/
theorem grow_length_le {table : Table} (small : table.size ≤ 65535) (extent : Table.Extent)
    (wanted : Nat) :
    Yields (Table.grow extent wanted) table
      (fun grown _ => grown.length ≤ max extent.length wanted) (fun _ _ => True) := by
  obtain ⟨head, length⟩ := extent
  by_cases enough : wanted ≤ length
  · rw [Table.grow, if_pos enough]
    exact Nat.le_max_left _ _
  · refine (Table.grow_yields small (Nat.lt_of_not_le enough)).mono ?_ fun _ _ _ => trivial
    rintro grown after ⟨blocks, added, _, _, rfl, total⟩
    have counted : Table.counted head length ≤ length := by
      unfold Table.counted
      split <;> omega
    rw [List.length_take] at total
    dsimp only
    omega

/-- The number of bytes that the blocks of a file have together. -/
theorem length_mul_lt {size stop length : Nat} (old : size ≤ maxFileSize) (new : stop ≤ maxFileSize)
    (short : length ≤ max (blocksFor size) (blocksFor stop)) :
    length * blockSize < positionLimit := by
  have limit : positionLimit = 18446744073709551616 := rfl
  simp only [blocksFor, blockSize, maxFileSize] at *
  omega

/-- A write relies on its offset and on the size of the table. -/
theorem writeFile_safe (layout : SuperBlock) {offset : Nat} (data : Bytes) {store : FileStore D}
    (small : store.table.size ≤ 65535) (inside : offset ≤ store.entry.size.toNat) :
    Safe (writeFile layout offset data) (FlatVolume.writeFile layout offset data) store := by
  unfold writeFile FlatVolume.writeFile
  show Safe (do
    settle (require (offset ≤ store.entry.size.toNat))
    _) _ store
  refine Safe.require_bind inside ?_
  by_cases nothing : data = []
  · rw [if_pos nothing, if_pos nothing]
    exact safe_pure 0 store
  rw [if_neg nothing, if_neg nothing]
  by_cases long : maxFileSize < offset + data.length
  · rw [if_pos long, if_pos long]
    exact safe_throw .invalidArgument store
  rw [if_neg long, if_neg long]
  have grows : Yields (FileStore.onTable (Table.grow
        ⟨store.entry.first, blocksFor store.entry.size.toNat⟩ (blocksFor (offset + data.length))))
      store (fun extent (_ : FileStore D) => extent.length * blockSize < positionLimit)
      fun _ _ => True := by
    refine yields_focus.mpr ((grow_length_le small _ _).mono ?_ fun _ _ _ => trivial)
    intro extent _ short
    refine length_mul_lt ?_ (Nat.le_of_not_lt long) short
    have bound := store.entry.size.toNat_lt
    simp only [maxFileSize]
    omega
  refine (grow_safe small _ _).onTable.bind_of_yields grows fun extent grown bounded => ?_
  refine (safe_reported _ grown).bind fun _ started _ => Safe.require_bind bounded ?_
  dsimp only
  by_cases full : min (offset + data.length) (extent.length * blockSize) ≤ offset
  · rw [if_pos full, if_pos full]
    exact safe_pure 0 started
  rw [if_neg full, if_neg full]
  refine Safe.require_bind (by omega) ?_
  have some : data.take (min (offset + data.length) (extent.length * blockSize) - offset) ≠ [] := by
    rw [ne_eq, List.take_eq_nil_iff]
    exact not_or.mpr ⟨by omega, nothing⟩
  refine Safe.bind (Safe.recover ?_ fun cause failed _ => ?_) fun _ written _ => ?_
  · exact Safe.get_bind (writeChain_safe layout _ _ _ offset some started.device).focus
  · refine (truncate_safe _ _ _).onTable.bind fun head cut _ => ?_
    exact (safe_reported _ cut).bind fun _ after _ => safe_throw cause after
  · exact (safe_reported _ written).bind fun _ after _ => safe_pure _ after

end Write

end FlatVolume.Guarded
