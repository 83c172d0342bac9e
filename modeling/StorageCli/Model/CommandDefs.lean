import StorageCli.Model.ApiDefs
import StorageCli.Model.ArgsDefs

/-! The handlers of `storage_cli.c` that make one storage call, or none, and print its
answer: `info`, `format`, `stat`, `timestamp`, the path commands and `md5`. -/

namespace StorageCli

variable {σ : Type} (api : Api σ)

def storageCliInfo (path : String) : Cli σ Unit := do
  furiRecordOpen recordStorage
  if path = storageIntPathPrefix then
    let (error, totalSpace, freeSpace) ← storageCommonFsInfo api storageIntPathPrefix
    if error ≠ .ok then storageCliPrintError api error
    else
      printf "Label: %s\r\nType: LittleFS\r\n%luKiB total\r\n%luKiB free\r\n"
        [.str (api.furiHalVersionGetNamePtr.getD "Unknown"),
         .num (BitVec.setWidth 32 (totalSpace / 1024)).toNat,
         .num (BitVec.setWidth 32 (freeSpace / 1024)).toNat]
  else if path = storageExtPathPrefix then
    let (error, sdInfo) ← storageSdInfo api
    if error ≠ .ok then storageCliPrintError api error
    else
      printf ("Label: %s\r\nType: %s\r\n%luKiB total\r\n%luKiB free\r\n" ++
          "%02x%s %s v%i.%i\r\nSN:%04lx %02i/%i\r\n")
        [.str sdInfo.label, .str (api.sdApiGetFsTypeText sdInfo.fsType), .num sdInfo.kbTotal,
         .num sdInfo.kbFree, .num sdInfo.manufacturerId, .str sdInfo.oemId,
         .str sdInfo.productName, .num sdInfo.productRevisionMajor,
         .num sdInfo.productRevisionMinor, .num sdInfo.productSerialNumber,
         .num sdInfo.manufacturingMonth, .num sdInfo.manufacturingYear]
  else storageCliPrintUsage
  furiRecordClose recordStorage

def storageCliFormat (path : String) : Cli σ Unit :=
  if path = storageIntPathPrefix then storageCliPrintError api .notImplemented
  else if path = storageExtPathPrefix then do
    printf "Formatting SD card, All data will be lost! Are you sure (y/n)?\r\n" []
    let answer ← cliGetc
    if answer = 'y'.toUInt8 ∨ answer = 'Y'.toUInt8 then
      furiRecordOpen recordStorage
      printf "Formatting, please wait...\r\n" []
      let error ← storageSdFormat api
      if error ≠ .ok then storageCliPrintError api error
      else printf "SD card was successfully formatted.\r\n" []
      furiRecordClose recordStorage
    else printf "Cancelled.\r\n" []
  else storageCliPrintUsage

def storageCliStat (path : String) : Cli σ Unit := do
  furiRecordOpen recordStorage
  if path = "/" then printf "Storage\r\n" []
  else if path = storageExtPathPrefix ∨ path = storageIntPathPrefix ∨
      path = storageAnyPathPrefix then
    let (error, totalSpace, freeSpace) ← storageCommonFsInfo api path
    if error ≠ .ok then storageCliPrintError api error
    else
      printf "Storage, %luKiB total, %luKiB free\r\n"
        [.num (BitVec.setWidth 32 (totalSpace / 1024)).toNat,
         .num (BitVec.setWidth 32 (freeSpace / 1024)).toNat]
  else
    let (error, fileinfo) ← storageCommonStat api path
    if error = .ok then
      if fileinfo.isDir then printf "Directory\r\n" []
      else printf "File, size: %lub\r\n" [.num (BitVec.setWidth 32 fileinfo.size).toNat]
    else storageCliPrintError api error
  furiRecordClose recordStorage

def storageCliTimestamp (path : String) : Cli σ Unit := do
  furiRecordOpen recordStorage
  let (error, timestamp) ← storageCommonTimestamp api path
  if error ≠ .ok then printf "Invalid arguments\r\n" []
  else printf "Timestamp %lu\r\n" [.num timestamp.toNat]
  furiRecordClose recordStorage

/-- `storage_cli_copy`, `storage_cli_rename` and `storage_cli_migrate`: the destination is a
second, possibly quoted, token of the arguments. -/
def storageCliPathPair (op : PairOp) (oldPath args : String) : Cli σ Unit := do
  furiRecordOpen recordStorage
  furiStringAlloc
  match argsReadProbablyQuotedStringAndTrim args with
  | none => storageCliPrintUsage
  | some (newPath, _) =>
    let error ← storageCommonPair api op oldPath newPath
    if error ≠ .ok then storageCliPrintError api error
  furiStringFree
  furiRecordClose recordStorage

def storageCliCopy (oldPath args : String) : Cli σ Unit := storageCliPathPair api .copy oldPath args

def storageCliRename (oldPath args : String) : Cli σ Unit :=
  storageCliPathPair api .rename oldPath args

def storageCliMigrate (oldPath args : String) : Cli σ Unit :=
  storageCliPathPair api .migrate oldPath args

/-- `storage_cli_remove` and `storage_cli_mkdir`. -/
def storageCliPathOp (op : PathOp) (path : String) : Cli σ Unit := do
  furiRecordOpen recordStorage
  let error ← storageCommonPath api op path
  if error ≠ .ok then storageCliPrintError api error
  furiRecordClose recordStorage

def storageCliRemove (path : String) : Cli σ Unit := storageCliPathOp api .remove path

def storageCliMkdir (path : String) : Cli σ Unit := storageCliPathOp api .mkdir path

def hexDigit (n : Nat) : Char := if n < 10 then Char.ofNat (48 + n) else Char.ofNat (87 + n)

/-- The digest as `%02x` renders it, byte after byte. -/
def hexString (digest : List UInt8) : String :=
  String.mk (digest.flatMap fun b => [hexDigit (b.toNat / 16), hexDigit (b.toNat % 16)])

/-- Modelled from the spec: one read of the digest's input, a block at a time, until a read
answers nothing. -/
def md5ReadBody (data : List UInt8) : Cli σ (Step (List UInt8)) := do
  let block ← storageFileRead api 512
  pure (if block = [] then .done data else .next (data ++ block))

/-- Modelled from the spec: `md5_string_calc_file` (lib/toolbox/md5_calc) is not in the source.
It opens the file for reading, streams the whole content through the digest primitive and
renders the digest in lowercase hexadecimal; when the open or a read fails it answers `false`
with the storage error of the file instead. It answers the file, which its caller closes. -/
def md5StringCalcFile (fuel : Nat) (path : String) : Cli σ (File × Bool × String × FsError) := do
  let file ← storageFileOpen api path .read .openExisting
  if file.isOpen then
    let data ← loop (md5ReadBody api) fuel []
    let fileError ← storageFileGetError api
    pure (file, fileError = .ok, hexString (api.md5 data), fileError)
  else
    let fileError ← storageFileGetError api
    pure (file, false, "", fileError)

def storageCliMd5 (fuel : Nat) (path : String) : Cli σ Unit := do
  furiRecordOpen recordStorage
  let _ ← storageFileAlloc
  furiStringAlloc
  let (file, ok, md5, fileError) ← md5StringCalcFile api fuel path
  if ok then printf "%s\r\n" [.str md5]
  else storageCliPrintError api fileError
  furiStringFree
  let file ← storageFileClose api file
  storageFileFree api file
  furiRecordClose recordStorage

end StorageCli
