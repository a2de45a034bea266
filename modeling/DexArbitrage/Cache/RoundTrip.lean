/-
This file proves the cache format right: the header is read back from the bytes
it was written to, a cache file loads to the value it was written from, and a
checksummed file with one byte of its data replaced does not load. The last
part holds for every such replacement, because no step of the rolling hash
loses the state or the byte.
-/

import DexArbitrage.Cache.Format

namespace DexArbitrage

/-! ### The header -/

theorem fromUtf8_asBytes (text : String) : fromUtf8 (asBytes text) = .ok text := by
  have decoded : String.fromUTF8? ⟨(asBytes text).toArray⟩ = some text := by
    unfold asBytes String.fromUTF8?
    rw [dif_pos text.isValidUTF8]
    rfl
  unfold fromUtf8
  rw [decoded]

theorem length_asBytes (text : String) : (asBytes text).length = text.toByteArray.size :=
  Array.length_toList

theorem readsBack_readChecksum {checksum : String} (short : (asBytes checksum).length < 65536) :
    ReadsBack readChecksum (writeChecksum (some checksum)) checksum := by
  unfold readChecksum writeChecksum
  refine (readsBack_readExact (length_toBigEndian 2 _)).bind ?_
  rw [fromBigEndian_toBigEndian 2 _ short]
  refine (readsBack_readExact rfl).last ?_
  exact readsBack_attempt (fromUtf8_asBytes checksum)

theorem length_writeTo (header : CacheHeader) :
    header.writeTo.length = 4 + 4 + 8 + 1 + if header.checksum.isSome then
      2 + (header.checksum.map fun checksum => (asBytes checksum).length).getD 0 else 0 := by
  obtain ⟨version, createdAt, checksum⟩ := header
  cases checksum with
  | none => simp [CacheHeader.writeTo, magicBytes, writeChecksum]
  | some checksum =>
    simp [CacheHeader.writeTo, magicBytes, writeChecksum]
    omega

theorem flag_of_isSome (present : Bool) :
    (([if present then 1 else 0] : Bytes).headD 0 &&& 1 != 0) = present := by
  cases present <;> rfl

/-- Reading a header takes exactly the bytes that were written for it. -/
theorem readsBack_readFrom {header : CacheHeader}
    (short : ∀ checksum, header.checksum = some checksum → (asBytes checksum).length < 65536) :
    ReadsBack CacheHeader.readFrom header.writeTo (header, header.writeTo.length) := by
  have versionBack : UInt32.ofNat (fromBigEndian (toBigEndian 4 header.version.toNat)) =
      header.version := by
    rw [fromBigEndian_toBigEndian 4 _ header.version.toNat_lt, UInt32.ofNat_toNat]
  have createdAtBack : UInt64.ofNat (fromBigEndian (toBigEndian 8 header.createdAt.toNat)) =
      header.createdAt := by
    rw [fromBigEndian_toBigEndian 8 _ header.createdAt.toNat_lt, UInt64.ofNat_toNat]
  have checksumBack : ReadsBack (readOptionalChecksum header.checksum.isSome)
      (writeChecksum header.checksum) header.checksum := by
    cases present : header.checksum with
    | none => exact readsBack_pure none
    | some checksum => exact (readsBack_readChecksum (short checksum present)).map some
  rw [length_writeTo]
  unfold CacheHeader.readFrom CacheHeader.writeTo
  refine ((readsBack_readExact (show magicBytes.length = 4 from rfl)).withContext _).bind ?_
  refine (readsBack_require rfl _).step ?_
  refine (readsBack_readExact (length_toBigEndian 4 _)).bind ?_
  refine (readsBack_readExact (length_toBigEndian 8 _)).bind ?_
  refine (readsBack_readExact List.length_singleton).bind ?_
  rw [versionBack, createdAtBack]
  simp only [flag_of_isSome]
  exact checksumBack.last (readsBack_pure _)

/-! ### The checksum -/

theorem mul_31_injective : Function.Injective fun acc : UInt64 => acc * 31 := by
  -- The factor is odd, so it has an inverse.
  have inverse : (31 : UInt64) * 17256631552825064415 = 1 := by decide
  intro first second same
  have undone := congrArg (· * (17256631552825064415 : UInt64)) same
  simpa only [UInt64.mul_assoc, inverse, UInt64.mul_one] using undone

theorem checksumStep_injective_acc (byte : UInt8) :
    Function.Injective fun acc => checksumStep acc byte :=
  fun _ _ same => mul_31_injective ((UInt64.xor_left_inj _).mp same)

theorem checksumStep_injective_byte (acc : UInt64) : Function.Injective (checksumStep acc) :=
  fun _ _ same => UInt8.toUInt64_inj.mp ((UInt64.xor_right_inj _).mp same)

/-- Replacing one byte changes the checksum. -/
theorem checksum64_set_ne {data : Bytes} {position : Nat} (inside : position < data.length)
    {byte : UInt8} (different : byte ≠ data[position]) :
    checksum64 (data.set position byte) ≠ checksum64 data :=
  foldl_set_ne checksumStep_injective_acc checksumStep_injective_byte inside different 0

theorem checksumHex_injective : Function.Injective checksumHex := by
  intro first second same
  have digits := String.ofList_injective same
  exact UInt64.toNat_inj.mp (hexDigits_injective first.toNat_lt second.toNat_lt digits)

/-- A character takes at most four bytes. -/
theorem size_utf8Encode_le (chars : List Char) : chars.utf8Encode.size ≤ 4 * chars.length := by
  induction chars with
  | nil => simp
  | cons char rest inductionHypothesis =>
    have one := Char.utf8Size_le_four char
    rw [List.utf8Encode_cons, ByteArray.size_append, List.utf8Encode_singleton,
      List.size_toByteArray, String.length_utf8EncodeChar, List.length_cons]
    omega

theorem length_asBytes_checksumHex_lt (checksum : UInt64) :
    (asBytes (checksumHex checksum)).length < 65536 := by
  have atMost := size_utf8Encode_le (hexDigits 16 checksum.toNat)
  rw [length_hexDigits] at atMost
  rw [length_asBytes, checksumHex, String.toByteArray_ofList]
  omega

/-! ### Files -/

section Json

variable {Value : Type} {toVec : Value → Except String Bytes}
  {fromSlice : Bytes → Except String Value}

/-- The header of a cache file. -/
def cacheHeaderOf (useChecksum : Bool) (createdAt : UInt64) (dataBytes : Bytes) :
    CacheHeader where
  version := cacheSchemaVersion
  createdAt := createdAt
  checksum := if useChecksum then some (checksumHex (checksum64 dataBytes)) else none

theorem cacheBuffer_eq (useChecksum : Bool) (createdAt : UInt64) (dataBytes : Bytes) :
    cacheBuffer useChecksum createdAt dataBytes =
      (cacheHeaderOf useChecksum createdAt dataBytes).writeTo ++ dataBytes := by
  cases useChecksum <;> rfl

theorem readsBack_cacheHeaderOf (useChecksum : Bool) (createdAt : UInt64) (dataBytes : Bytes) :
    ReadsBack CacheHeader.readFrom (cacheHeaderOf useChecksum createdAt dataBytes).writeTo
      (cacheHeaderOf useChecksum createdAt dataBytes,
        (cacheHeaderOf useChecksum createdAt dataBytes).writeTo.length) := by
  refine readsBack_readFrom fun checksum present => ?_
  unfold cacheHeaderOf at present
  split at present
  · injection present with same
    rw [← same]
    exact length_asBytes_checksumHex_lt _
  · cases present

/-- A write that succeeds leaves the header and the encoded value in the file. -/
theorem lookup_of_write_ok {writer : AtomicCacheWriter} {replies : WriteReplies} {data : Value}
    {files after : Files}
    (written : writer.write toVec replies data files = (.ok (), after)) :
    ∃ createdAt dataBytes, toVec data = .ok dataBytes ∧
      after.lookup writer.basePath =
        some ((cacheHeaderOf writer.useChecksum createdAt dataBytes).writeTo ++ dataBytes) := by
  unfold AtomicCacheWriter.write AtomicCacheWriter.prepare at written
  cases clock : replies.clock with
  | error reason =>
    rw [clock] at written
    cases written
  | ok createdAt =>
    rw [clock, ok_bind] at written
    cases encoded : toVec data with
    | error reason =>
      rw [encoded] at written
      cases written
    | ok dataBytes =>
      rw [encoded] at written
      refine ⟨createdAt, dataBytes, rfl, ?_⟩
      cases created : replies.createDirAll with
      | error reason =>
        rw [created] at written
        cases written
      | ok _ =>
        cases wrote : replies.writeTemp with
        | error left =>
          rw [created, wrote] at written
          cases written
        | ok _ =>
          cases renamed : replies.rename with
          | error reason =>
            rw [created, wrote, renamed] at written
            cases written
          | ok _ =>
            rw [created, wrote, renamed] at written
            injection written with _ same
            rw [← same, HashMap.lookup_insert, if_pos rfl, cacheBuffer_eq]

/-- Loading a file that starts with a written header. -/
theorem loadCache_of_lookup {path : FilePath} {files : Files} {useChecksum : Bool}
    {createdAt : UInt64} {hashed dataBytes : Bytes}
    (stored : files.lookup path =
      some ((cacheHeaderOf useChecksum createdAt hashed).writeTo ++ dataBytes))
    (faults : LoadFaults) :
    loadCache fromSlice faults path files =
      match faults.openFile with
      | some error => .corrupt ("failed to open cache file: " ++ error)
      | none =>
        match faults.readToEnd with
        | some error => .corrupt ("failed to read cache data: " ++ error)
        | none => loadData fromSlice (cacheHeaderOf useChecksum createdAt hashed).checksum
            dataBytes := by
  unfold loadCache
  rw [stored]
  simp only
  rw [readsBack_cacheHeaderOf useChecksum createdAt hashed dataBytes]
  rfl

theorem loadData_cacheHeaderOf (useChecksum : Bool) (createdAt : UInt64) (dataBytes : Bytes) :
    loadData fromSlice (cacheHeaderOf useChecksum createdAt dataBytes).checksum dataBytes =
      loadData.decode fromSlice dataBytes := by
  cases useChecksum with
  | false => rfl
  | true =>
    unfold loadData cacheHeaderOf
    simp only [if_true]
    rw [if_neg (not_not_intro rfl)]

/-- A data section is corrupt behind the header of data with another checksum. -/
theorem loadData_of_checksum_ne (createdAt : UInt64) {hashed dataBytes : Bytes}
    (different : checksum64 dataBytes ≠ checksum64 hashed) :
    ∃ error, loadData fromSlice (cacheHeaderOf true createdAt hashed).checksum dataBytes =
      .corrupt error := by
  have mismatch : checksumHex (checksum64 hashed) ≠ checksumHex (checksum64 dataBytes) := by
    intro same
    have checksums : checksum64 hashed = checksum64 dataBytes := checksumHex_injective same
    exact different checksums.symm
  unfold loadData cacheHeaderOf
  simp only [if_true]
  rw [if_pos mismatch]
  exact ⟨_, rfl⟩

/-- As long as the value decodes from what it is encoded to: the file of a write loads to the
value, headers are read back from exactly their bytes, and the file of a checksummed write is
corrupt as soon as one byte of its data is a different one. -/
theorem cacheFormat_sound
    (decodes : ∀ value bytes, toVec value = .ok bytes → fromSlice bytes = .ok value)
    {writer : AtomicCacheWriter} {replies : WriteReplies} {data : Value} {files after : Files}
    (written : writer.write toVec replies data files = (.ok (), after)) :
    loadCache fromSlice .none writer.basePath after = .ok data ∧
      (∀ header : CacheHeader,
        (∀ checksum, header.checksum = some checksum → (asBytes checksum).length < 65536) →
        ∀ rest, CacheHeader.readFrom.run (header.writeTo ++ rest) =
          .ok ((header, header.writeTo.length), rest)) ∧
      (writer.useChecksum = true → ∃ header dataBytes, toVec data = .ok dataBytes ∧
        after.lookup writer.basePath = some (CacheHeader.writeTo header ++ dataBytes) ∧
        ∀ position, ∀ inside : position < dataBytes.length, ∀ byte, byte ≠ dataBytes[position] →
          ∀ faults, ∃ error, loadCache fromSlice faults writer.basePath
            (after.insert writer.basePath (header.writeTo ++ dataBytes.set position byte)) =
              .corrupt error) := by
  obtain ⟨createdAt, dataBytes, encoded, stored⟩ := lookup_of_write_ok written
  refine ⟨?_, fun header short rest => readsBack_readFrom short rest, fun checksummed => ?_⟩
  · rw [loadCache_of_lookup stored, loadData_cacheHeaderOf]
    show loadData.decode fromSlice dataBytes = .ok data
    rw [loadData.decode, decodes data dataBytes encoded]
  · rw [checksummed] at stored
    refine ⟨_, dataBytes, encoded, stored, fun position inside byte different faults => ?_⟩
    have replaced : AList.lookup writer.basePath (after.insert writer.basePath
        ((cacheHeaderOf true createdAt dataBytes).writeTo ++ dataBytes.set position byte)) =
        some ((cacheHeaderOf true createdAt dataBytes).writeTo ++ dataBytes.set position byte) :=
      AList.lookup_insert _
    rw [loadCache_of_lookup replaced]
    cases faults.openFile with
    | some error => exact ⟨_, rfl⟩
    | none =>
      cases faults.readToEnd with
      | some error => exact ⟨_, rfl⟩
      | none => exact loadData_of_checksum_ne createdAt (checksum64_set_ne inside different)

end Json

/-! ### A file that holds one truth value -/

/-- The JSON text of a truth value. -/
def boolToVec (value : Bool) : Except String Bytes :=
  .ok (if value then [116, 114, 117, 101] else [102, 97, 108, 115, 101])

def boolFromSlice (bytes : Bytes) : Except String Bool :=
  if bytes = [116, 114, 117, 101] then
    .ok true
  else if bytes = [102, 97, 108, 115, 101] then
    .ok false
  else
    .error "expected ident"

def promptReplies : WriteReplies where
  clock := .ok 1700000000
  createDirAll := .ok ()
  writeTemp := .ok ()
  rename := .ok ()

def flagPath : FilePath where
  directory := "cache"
  fileName := "flag.bin"

/-- The file of a checksummed write of `true` loads to `true`, its header is read back in front of
other bytes, and it is corrupt when the text becomes `True`. -/
theorem cacheFormat_sound_true :
    let after := ((AtomicCacheWriter.new flagPath true).write boolToVec promptReplies true ∅).2
    let header := cacheHeaderOf true 1700000000 [116, 114, 117, 101]
    loadCache boolFromSlice .none flagPath after = .ok true ∧
      CacheHeader.readFrom.run (header.writeTo ++ [7]) =
        .ok ((header, header.writeTo.length), [7]) ∧
      ∃ written : CacheHeader,
        after.lookup flagPath = some (written.writeTo ++ [116, 114, 117, 101]) ∧
        ∃ error, loadCache boolFromSlice .none flagPath
          (after.insert flagPath (written.writeTo ++ [84, 114, 117, 101])) = .corrupt error := by
  intro after header
  have decodes : ∀ value bytes, boolToVec value = .ok bytes → boolFromSlice bytes = .ok value := by
    rintro value bytes encoded
    injection encoded with same
    rw [← same]
    cases value <;> rfl
  have written : (AtomicCacheWriter.new flagPath true).write boolToVec promptReplies true ∅ =
      (.ok (), after) :=
    rfl
  obtain ⟨loads, readsBack, corrupts⟩ := cacheFormat_sound decodes written
  refine ⟨loads, readsBack header (fun checksum isChecksum => ?_) [7], ?_⟩
  · injection isChecksum with same
    rw [← same]
    decide +kernel
  · obtain ⟨stored, dataBytes, encoded, isStored, corrupt⟩ := corrupts rfl
    injection encoded with same
    subst same
    exact ⟨stored, isStored, corrupt 0 (by decide) 84 (by decide) .none⟩

end DexArbitrage
