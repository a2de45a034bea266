/-
This file models `src/cache/mod.rs`: the file format of a cache, with its
header and its checksum, the writer that goes through a temporary file, and the
loader.

`serde_json` is a parameter, a pair of functions `toVec` and `fromSlice`. What
the operating system answers to one write or load comes with the call as
`WriteReplies` and `LoadFaults`; the files are a map from paths to contents.
-/

import DexArbitrage.Lib.ByteReader
import DexArbitrage.Lib.BigEndian
import DexArbitrage.Lib.Checksum
import DexArbitrage.Types

namespace DexArbitrage

def cacheSchemaVersion : UInt32 := 2

/-- The bytes of `DARC`. -/
def magicBytes : Bytes := [68, 65, 82, 67]

structure CacheHeader where
  version : UInt32
  createdAt : UInt64
  checksum : Option String
  deriving DecidableEq, Repr

inductive CacheLoadResult (Value : Type)
  | ok (value : Value)
  | versionMismatch (currentVersion expectedVersion : UInt32)
  | corrupt (error : String)
  | notFound
  deriving DecidableEq, Repr

/-! ### The header -/

def asBytes (text : String) : Bytes :=
  text.toByteArray.data.toList

/-- `String::from_utf8`, with the context its caller adds. -/
def fromUtf8 (bytes : Bytes) : Except String String :=
  match String.fromUTF8? ⟨bytes.toArray⟩ with
  | some text => .ok text
  | none => .error "checksum not valid UTF-8"

/-- The checksum as it is written, behind its length in two bytes. -/
def writeChecksum : Option String → Bytes
  | some checksum => toBigEndian 2 (asBytes checksum).length ++ asBytes checksum
  | none => []

def CacheHeader.writeTo (header : CacheHeader) : Bytes :=
  magicBytes ++ (toBigEndian 4 header.version.toNat ++ (toBigEndian 8 header.createdAt.toNat ++
    ([if header.checksum.isSome then 1 else 0] ++ writeChecksum header.checksum)))

def readChecksum : ByteReader String := do
  let checksumLenBytes ← readExact 2
  let checksumBytes ← readExact (fromBigEndian checksumLenBytes)
  attempt (fromUtf8 checksumBytes)

def readOptionalChecksum (hasChecksum : Bool) : ByteReader (Option String) :=
  if hasChecksum then some <$> readChecksum else pure none

/-- The header, and its size in bytes. -/
def CacheHeader.readFrom : ByteReader (CacheHeader × Nat) := do
  let magic ← withContext "failed to read magic bytes" (readExact 4)
  require (magic = magicBytes) "invalid cache file: bad magic bytes"
  let versionBytes ← readExact 4
  let createdAtBytes ← readExact 8
  let flags ← readExact 1
  let hasChecksum := flags.headD 0 &&& 1 != 0
  let checksum ← readOptionalChecksum hasChecksum
  let headerSize := 4 + 4 + 8 + 1 +
    if hasChecksum then 2 + (checksum.map fun checksum => (asBytes checksum).length).getD 0 else 0
  return ({
    version := .ofNat (fromBigEndian versionBytes)
    createdAt := .ofNat (fromBigEndian createdAtBytes)
    checksum }, headerSize)

/-! ### The checksum -/

/-- One step of the rolling hash. -/
def checksumStep (acc : UInt64) (byte : UInt8) : UInt64 :=
  acc * 31 ^^^ byte.toUInt64

def checksum64 (data : Bytes) : UInt64 :=
  data.foldl checksumStep 0

/-- The sixteen hexadecimal digits of a checksum. -/
def checksumHex (checksum : UInt64) : String :=
  String.ofList (hexDigits 16 checksum.toNat)

/-! ### Writing -/

/-- A path with a file name: the directory, and the name in it. -/
structure FilePath where
  directory : String
  fileName : String
  deriving DecidableEq, Repr

/-- The file name up to its last dot, unless that dot is the first character. -/
def fileStem (fileName : String) : String :=
  match (fileName.toList.reverse.dropWhile (· ≠ '.')) with
  | '.' :: stem => if stem.isEmpty then fileName else String.ofList stem.reverse
  | _ => fileName

def FilePath.withExtension (path : FilePath) (extension : String) : FilePath :=
  { path with fileName := fileStem path.fileName ++ "." ++ extension }

/-- The contents of the files. -/
abbrev Files : Type := HashMap FilePath Bytes

/-- What the operating system answers to one write: the seconds since the epoch, and whether each
step succeeds. A write to the temporary file that fails leaves some bytes there. -/
structure WriteReplies where
  clock : Except String UInt64
  createDirAll : Except String Unit
  writeTemp : Except Bytes Unit
  rename : Except String Unit

structure AtomicCacheWriter where
  basePath : FilePath
  tempPath : FilePath
  useChecksum : Bool

def AtomicCacheWriter.new (path : FilePath) (useChecksum : Bool) : AtomicCacheWriter where
  basePath := path
  tempPath := path.withExtension ".tmp"
  useChecksum := useChecksum

section Json

variable {Value : Type} (toVec : Value → Except String Bytes)
  (fromSlice : Bytes → Except String Value)

/-- The bytes of a cache file. -/
def cacheBuffer (useChecksum : Bool) (createdAt : UInt64) (dataBytes : Bytes) : Bytes :=
  let header : CacheHeader := { version := cacheSchemaVersion, createdAt, checksum := none }
  if useChecksum then
    { header with checksum := some (checksumHex (checksum64 dataBytes)) }.writeTo ++ dataBytes
  else
    header.writeTo ++ dataBytes

/-- The buffer that a write prepares before it touches any file. -/
def AtomicCacheWriter.prepare (writer : AtomicCacheWriter) (replies : WriteReplies)
    (data : Value) : Except String Bytes := do
  let createdAt ← replies.clock
  match toVec data with
  | .ok dataBytes => return cacheBuffer writer.useChecksum createdAt dataBytes
  | .error _ => throw "failed to serialize cache data"

/-- The result of a write, and the files after it. -/
def AtomicCacheWriter.write (writer : AtomicCacheWriter) (replies : WriteReplies) (data : Value)
    (files : Files) : Except String Unit × Files :=
  match writer.prepare toVec replies data with
  | .error reason => (.error reason, files)
  | .ok buffer =>
    match replies.createDirAll with
    | .error _ => (.error "failed to create cache directory", files)
    | .ok () =>
      match replies.writeTemp with
      | .error written =>
        (.error "failed to write temp cache file", files.insert writer.tempPath written)
      | .ok () =>
        match replies.rename with
        | .error _ => (.error "failed to rename temp cache file to final location",
            files.insert writer.tempPath buffer)
        | .ok () => (.ok (), (files.erase writer.tempPath).insert writer.basePath buffer)

/-! ### Loading -/

/-- The faults of the operating system during one load, with their texts. -/
structure LoadFaults where
  openFile : Option String
  readToEnd : Option String
  deriving DecidableEq, Repr

def LoadFaults.none : LoadFaults where
  openFile := .none
  readToEnd := .none

/-- The result for a data section, behind a header of the right version. -/
def loadData (checksum : Option String) (data : Bytes) : CacheLoadResult Value :=
  let actualChecksumHex := checksumHex (checksum64 data)
  match checksum with
  | some expectedChecksum =>
    if expectedChecksum ≠ actualChecksumHex then
      .corrupt ("checksum mismatch: expected " ++ expectedChecksum ++ ", got " ++
        actualChecksumHex)
    else
      decode data
  | none => decode data
where
  decode (data : Bytes) : CacheLoadResult Value :=
    match fromSlice data with
    | .ok value => .ok value
    | .error error => .corrupt ("failed to deserialize cache: " ++ error)

def loadCache (faults : LoadFaults) (path : FilePath) (files : Files) : CacheLoadResult Value :=
  match files.lookup path with
  | none => .notFound
  | some content =>
    match faults.openFile with
    | some error => .corrupt ("failed to open cache file: " ++ error)
    | none =>
      match CacheHeader.readFrom.run content with
      | .error error => .corrupt ("failed to read cache header: " ++ error)
      | .ok ((header, _), data) =>
        if header.version ≠ cacheSchemaVersion then
          .versionMismatch header.version cacheSchemaVersion
        else
          match faults.readToEnd with
          | some error => .corrupt ("failed to read cache data: " ++ error)
          | none => loadData fromSlice header.checksum data

end Json

end DexArbitrage
