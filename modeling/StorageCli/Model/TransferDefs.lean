import StorageCli.Model.ApiDefs
import StorageCli.Model.ArgsDefs

/-! The four transfer protocols of `storage_cli.c`: `read` runs to the end of the file,
`write` appends console text until Ctrl+C, `read_chunks` sends a block per handshake and
`write_chunk` appends one block. Each loop is its body, one pass, run by `loop`. -/

namespace StorageCli

variable {σ : Type} (api : Api σ)

/-- One pass of the `do ... while(read_size > 0)` loop of `storage_cli_read`. -/
def storageCliReadBody (bufferSize : Nat) (_ : Unit) : Cli σ (Step Unit) := do
  let data ← storageFileRead api bufferSize
  data.forM fun c => printf "%c" [.chr c]
  pure (if data.length > 0 then .next () else .done ())

def storageCliRead (fuel : Nat) (path : String) : Cli σ Unit := do
  furiRecordOpen recordStorage
  let _ ← storageFileAlloc
  let file ← storageFileOpen api path .read .openExisting
  if file.isOpen then
    let bufferSize := 128
    malloc bufferSize
    printf "Size: %lu\r\n" [.num (BitVec.setWidth 32 (← storageFileSize api)).toNat]
    loop (storageCliReadBody api bufferSize) fuel ()
    printf "\r\n" []
    free
  else storageCliPrintError api (← storageFileGetError api)
  let file ← storageFileClose api file
  storageFileFree api file
  furiRecordClose recordStorage

/-- One pass of the `while(true)` loop of `storage_cli_write`, over the buffer and
`read_index`. -/
def storageCliWriteBody (bufferSize : Nat) :
    List UInt8 × BitVec 32 → Cli σ (Step (List UInt8 × BitVec 32))
  | (buffer, readIndex) => do
    let symbol ← cliGetc
    if symbol = cliSymbolAsciiETX then
      let writeSize := readIndex.toNat % bufferSize
      if writeSize > 0 then
        let writtenSize ← storageFileWrite api (buffer.take writeSize)
        if writtenSize ≠ writeSize then storageCliPrintError api (← storageFileGetError api)
        return .done (buffer, readIndex)
    let buffer := buffer.set (readIndex.toNat % bufferSize) symbol
    printf "%c" [.chr (buffer.getD (readIndex.toNat % bufferSize) 0)]
    let readIndex := readIndex + 1
    if readIndex.toNat % bufferSize = 0 then
      let writtenSize ← storageFileWrite api (buffer.take bufferSize)
      if writtenSize ≠ bufferSize then
        storageCliPrintError api (← storageFileGetError api)
        return .done (buffer, readIndex)
    return .next (buffer, readIndex)

def storageCliWrite (fuel : Nat) (path : String) : Cli σ Unit := do
  furiRecordOpen recordStorage
  let _ ← storageFileAlloc
  let bufferSize := 512
  malloc bufferSize
  let file ← storageFileOpen api path .write .openAppend
  if file.isOpen then
    printf "Just write your text data. New line by Ctrl+Enter, exit by Ctrl+C.\r\n" []
    let _ ← loop (storageCliWriteBody api bufferSize) fuel (List.replicate bufferSize 0, 0)
    printf "\r\n" []
  else storageCliPrintError api (← storageFileGetError api)
  let file ← storageFileClose api file
  free
  storageFileFree api file
  furiRecordClose recordStorage

/-- One pass of the `while(file_size > 0)` loop of `storage_cli_read_chunks`. -/
def storageCliReadChunksBody (bufferSize : BitVec 32) (fileSize : BitVec 64) :
    Cli σ (Step (BitVec 64)) :=
  if fileSize > 0 then do
    printf "\r\nReady?\r\n" []
    let _ ← cliGetc
    let data ← storageFileRead api bufferSize.toNat
    data.forM fun c => putchar c
    pure (.next (fileSize - BitVec.ofNat 64 data.length))
  else pure (.done fileSize)

def storageCliReadChunks (fuel : Nat) (path args : String) : Cli σ Unit := do
  furiRecordOpen recordStorage
  let file ← storageFileAlloc
  let file ← match sscanfLu args with
    | none => do
      storageCliPrintUsage
      pure file
    | some bufferSize => do
      let file ← storageFileOpen api path .read .openExisting
      if file.isOpen then
        let fileSize ← storageFileSize api
        printf "Size: %llu\r\n" [.num fileSize.toNat]
        if bufferSize ≠ 0 then
          malloc bufferSize.toNat
          let _ ← loop (storageCliReadChunksBody api bufferSize) fuel fileSize
          free
        printf "\r\n" []
      else storageCliPrintError api (← storageFileGetError api)
      pure file
  let file ← storageFileClose api file
  storageFileFree api file
  furiRecordClose recordStorage

def storageCliWriteChunk (path args : String) : Cli σ Unit := do
  furiRecordOpen recordStorage
  let file ← storageFileAlloc
  match sscanfLu args with
  | none => storageCliPrintUsage
  | some bufferSize =>
    let file ← storageFileOpen api path .write .openAppend
    if file.isOpen then
      printf "Ready\r\n" []
      if bufferSize ≠ 0 then
        malloc bufferSize.toNat
        let buffer ← cliRead bufferSize.toNat
        let writtenSize ← storageFileWrite api buffer
        if writtenSize ≠ bufferSize.toNat then storageCliPrintError api (← storageFileGetError api)
        free
    else storageCliPrintError api (← storageFileGetError api)
    let _ ← storageFileClose api file
  storageFileFree api file
  furiRecordClose recordStorage

end StorageCli
