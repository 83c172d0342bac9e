import StorageCli.Model.ApiDefs

/-! The listing handlers of `storage_cli.c`: `list` reads one directory through
`storage_dir_read`, `tree` walks a subtree through the directory walker, and on the root
`tree` walks the internal and then the external volume. -/

namespace StorageCli

variable {σ : Type} (api : Api σ)

/-- The line printed for one entry of a listing. -/
def printEntry (name : String) (fileinfo : FileInfo) : Cli σ Unit :=
  if fileinfo.isDir then printf "\t[D] %s\r\n" [.str name]
  else printf "\t[F] %s %lub\r\n" [.str name, .num (BitVec.setWidth 32 fileinfo.size).toNat]

/-- One pass of the `while(storage_dir_read(...))` loop of `storage_cli_list`, over
`read_done`. -/
def storageCliListBody (readDone : Bool) : Cli σ (Step Bool) := do
  match ← storageDirRead api maxNameLength with
  | some (fileinfo, name) =>
    printEntry name fileinfo
    pure (.next true)
  | none => pure (.done readDone)

def storageCliList (fuel : Nat) (path : String) : Cli σ Unit :=
  if path = "/" then do
    printf "\t[D] int\r\n" []
    printf "\t[D] ext\r\n" []
    printf "\t[D] any\r\n" []
  else do
    furiRecordOpen recordStorage
    let _ ← storageFileAlloc
    let file ← storageDirOpen api path
    if file.isOpen then
      let readDone ← loop (storageCliListBody api) fuel false
      if !readDone then printf "\tEmpty\r\n" []
    else storageCliPrintError api (← storageFileGetError api)
    let file ← storageDirClose api file
    storageFileFree api file
    furiRecordClose recordStorage

/-- One pass of the `while(dir_walk_read(...) == DirWalkOK)` loop of `storage_cli_tree`, over
`read_done`. -/
def storageCliTreeBody (readDone : Bool) : Cli σ (Step Bool) := do
  match ← dirWalkRead api with
  | .ok name fileinfo =>
    printEntry name fileinfo
    pure (.next true)
  | _ => pure (.done readDone)

def storageCliTree : Nat → String → Cli σ Unit
  | 0, _ => outOfFuel
  | fuel + 1, path =>
    if path = "/" then do
      storageCliTree fuel storageIntPathPrefix
      storageCliTree fuel storageExtPathPrefix
    else do
      furiRecordOpen recordStorage
      let _ ← dirWalkAlloc
      furiStringAlloc
      let dirWalk ← dirWalkOpen api path
      if dirWalk.isOpen then
        let readDone ← loop (storageCliTreeBody api) fuel false
        if !readDone then printf "\tEmpty\r\n" []
      else storageCliPrintError api (← dirWalkGetError api)
      furiStringFree
      dirWalkFree api dirWalk
      furiRecordClose recordStorage

end StorageCli
