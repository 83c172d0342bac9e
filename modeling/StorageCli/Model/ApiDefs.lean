import StorageCli.Logic.Wp

/-! The storage service and the other collaborators as one record of functions over the
service's state, the calls the handlers make on it, and the two printing helpers of
`storage_cli.c`. -/

namespace StorageCli

/-- The collaborators of the CLI. A storage call answers from the service's state and may
change it; the error texts, the file-system type names, the device name and the digest are
pure. -/
structure Api (σ : Type) where
  storageCommonFsInfo : String → σ → (FsError × BitVec 64 × BitVec 64) × σ
  storageSdInfo : σ → (FsError × SDInfo) × σ
  storageSdFormat : σ → FsError × σ
  storageCommonStat : String → σ → (FsError × FileInfo) × σ
  storageCommonTimestamp : String → σ → (FsError × BitVec 32) × σ
  storageCommonPair : PairOp → String → String → σ → FsError × σ
  storageCommonPath : PathOp → String → σ → FsError × σ
  storageFileOpen : String → FsAccessMode → FsOpenMode → σ → Bool × σ
  storageFileClose : σ → σ
  storageFileRead : Nat → σ → List UInt8 × σ
  storageFileWrite : List UInt8 → σ → Nat × σ
  storageFileSize : σ → BitVec 64
  storageFileGetError : σ → FsError
  storageDirOpen : String → σ → Bool × σ
  storageDirRead : Nat → σ → DirRead × σ
  storageDirClose : σ → σ
  dirWalkOpen : String → σ → Bool × σ
  dirWalkRead : σ → DirWalkResult × σ
  dirWalkGetError : σ → FsError
  storageErrorGetDesc : FsError → String
  sdApiGetFsTypeText : Nat → String
  furiHalVersionGetNamePtr : Option String
  md5 : List UInt8 → List UInt8

/-- A `File*` as its owner sees it. -/
structure File where
  isOpen : Bool

/-- A `DirWalk*` as its owner sees it. -/
structure DirWalk where
  isOpen : Bool

/-- Modelled from the spec: `RECORD_STORAGE` is declared in `storage/storage.h`, which is not in
the source; it names the storage record, which `storage_on_system_start` also registers as the
command name. -/
def recordStorage : String := "storage"

/-- Modelled from the spec: `STORAGE_INT_PATH_PREFIX` is declared in `storage/storage.h`, which
is not in the source; the usage text names it. -/
def storageIntPathPrefix : String := "/int"

/-- Modelled from the spec: `STORAGE_EXT_PATH_PREFIX` is declared in `storage/storage.h`, which
is not in the source; the usage text names it. -/
def storageExtPathPrefix : String := "/ext"

/-- Modelled from the spec: `STORAGE_ANY_PATH_PREFIX` is declared in `storage/storage.h`, which
is not in the source; the root listing names it. -/
def storageAnyPathPrefix : String := "/any"

/-- Modelled from the spec: `CliSymbolAsciiETX` is declared in `cli/cli.h`, which is not in the
source; it is the ASCII end-of-text code. -/
def cliSymbolAsciiETX : UInt8 := 3

def maxNameLength : Nat := 254

section Calls
variable {σ : Type} (api : Api σ)

/-- A call on the storage service: it answers from the service's state, and the call is
logged with its answer. -/
def call {α : Type} (f : σ → α × σ) (ev : α → Event) : Cli σ α := fun w =>
  .ret (f w.storage).1 { w with storage := (f w.storage).2 } [ev (f w.storage).1]

@[simp] theorem wp_call {α : Type} {Q : α → World σ → List Event → Prop}
    {S : List Event → Prop} {w : World σ} (f : σ → α × σ) (ev : α → Event) :
    wp (call f ev) Q S w ↔
      Q (f w.storage).1 { w with storage := (f w.storage).2 } [ev (f w.storage).1] := Iff.rfl

@[simp] def storageFileAlloc : Cli σ File := call (fun s => (⟨false⟩, s)) fun _ => .storageFileAlloc

/-- `storage_file_free` closes the file first when it is still open. -/
@[simp] def storageFileFree (file : File) : Cli σ Unit :=
  call (fun s => ((), if file.isOpen then api.storageFileClose s else s))
    fun _ => .storageFileFree file.isOpen

@[simp] def storageFileOpen (path : String) (access : FsAccessMode) (mode : FsOpenMode) : Cli σ File :=
  call (fun s => (⟨(api.storageFileOpen path access mode s).1⟩,
      (api.storageFileOpen path access mode s).2))
    fun file => .storageFileOpen path access mode file.isOpen

@[simp] def storageFileClose (file : File) : Cli σ File :=
  call (fun s => (⟨false⟩, api.storageFileClose s)) fun _ => .storageFileClose file.isOpen

@[simp] def storageFileRead (size : Nat) : Cli σ (List UInt8) :=
  call (api.storageFileRead size) fun data => .storageFileRead size data

@[simp] def storageFileWrite (data : List UInt8) : Cli σ Nat :=
  call (api.storageFileWrite data) fun written => .storageFileWrite data written

@[simp] def storageFileSize : Cli σ (BitVec 64) :=
  call (fun s => (api.storageFileSize s, s)) fun size => .storageFileSize size

@[simp] def storageFileGetError : Cli σ FsError :=
  call (fun s => (api.storageFileGetError s, s)) fun error => .storageFileGetError error

@[simp] def storageDirOpen (path : String) : Cli σ File :=
  call (fun s => (⟨(api.storageDirOpen path s).1⟩, (api.storageDirOpen path s).2))
    fun file => .storageDirOpen path file.isOpen

/-- `storage_dir_read` answers `true` with the entry it read, and `false` both at the end of
the directory and on a failed read. -/
@[simp] def storageDirRead (nameLength : Nat) : Cli σ (Option (FileInfo × String)) :=
  call (fun s => ((api.storageDirRead nameLength s).1, (api.storageDirRead nameLength s).2))
      (fun r => .storageDirRead r) >>= fun
    | .entry fileinfo name => pure (some (fileinfo, name))
    | _ => pure none

@[simp] def storageDirClose (file : File) : Cli σ File :=
  call (fun s => (⟨false⟩, api.storageDirClose s)) fun _ => .storageDirClose file.isOpen

@[simp] def dirWalkAlloc : Cli σ DirWalk := call (fun s => (⟨false⟩, s)) fun _ => .dirWalkAlloc

/-- `dir_walk_free` frees the walker's file, which closes the directory still open. -/
@[simp] def dirWalkFree (dirWalk : DirWalk) : Cli σ Unit :=
  call (fun s => ((), if dirWalk.isOpen then api.storageDirClose s else s))
    fun _ => .dirWalkFree dirWalk.isOpen

@[simp] def dirWalkOpen (path : String) : Cli σ DirWalk :=
  call (fun s => (⟨(api.dirWalkOpen path s).1⟩, (api.dirWalkOpen path s).2))
    fun dirWalk => .dirWalkOpen path dirWalk.isOpen

@[simp] def dirWalkRead : Cli σ DirWalkResult := call api.dirWalkRead fun r => .dirWalkRead r

@[simp] def dirWalkGetError : Cli σ FsError :=
  call (fun s => (api.dirWalkGetError s, s)) fun error => .dirWalkGetError error

@[simp] def storageCommonFsInfo (path : String) : Cli σ (FsError × BitVec 64 × BitVec 64) :=
  call (api.storageCommonFsInfo path) fun r => .storageCommonFsInfo path r.1 r.2.1 r.2.2

@[simp] def storageSdInfo : Cli σ (FsError × SDInfo) :=
  call api.storageSdInfo fun r => .storageSdInfo r.1 r.2

@[simp] def storageSdFormat : Cli σ FsError := call api.storageSdFormat fun e => .storageSdFormat e

@[simp] def storageCommonStat (path : String) : Cli σ (FsError × FileInfo) :=
  call (api.storageCommonStat path) fun r => .storageCommonStat path r.1 r.2

@[simp] def storageCommonTimestamp (path : String) : Cli σ (FsError × BitVec 32) :=
  call (api.storageCommonTimestamp path) fun r => .storageCommonTimestamp path r.1 r.2

@[simp] def storageCommonPair (op : PairOp) (oldPath newPath : String) : Cli σ FsError :=
  call (api.storageCommonPair op oldPath newPath) fun e => .storageCommonPair op oldPath newPath e

@[simp] def storageCommonPath (op : PathOp) (path : String) : Cli σ FsError :=
  call (api.storageCommonPath op path) fun e => .storageCommonPath op path e

/-- `power_reboot` does not return. -/
def powerReboot (mode : PowerBootMode) : Cli σ Unit := fun _ => .stop .reboot [.powerReboot mode]

@[simp] theorem wp_powerReboot {Q : Unit → World σ → List Event → Prop}
    {S : List Event → Prop} {w : World σ} (mode : PowerBootMode) :
    wp (powerReboot mode : Cli σ Unit) Q S w ↔ S [.powerReboot mode] := Iff.rfl

def storageCliUsage : List String :=
  ["Usage:\r\n",
   "storage <cmd> <path> <args>\r\n",
   "The path must start with /int or /ext\r\n",
   "Cmd list:\r\n",
   "\tinfo\t - get FS info\r\n",
   "\tformat\t - format filesystem\r\n",
   "\tlist\t - list files and dirs\r\n",
   "\ttree\t - list files and dirs, recursive\r\n",
   "\tremove\t - delete the file or directory\r\n",
   "\tread\t - read text from file and print file size and content to cli\r\n",
   "\tread_chunks\t - read data from file and print file size and content to cli, <args> should contain how many bytes you want to read in block\r\n",
   "\twrite\t - read text from cli and append it to file, stops by ctrl+c\r\n",
   "\twrite_chunk\t - read data from cli and append it to file, <args> should contain how many bytes you want to write\r\n",
   "\tcopy\t - copy file to new file, <args> must contain new path\r\n",
   "\trename\t - move file to new file, <args> must contain new path\r\n",
   "\tmigrate\t - move folder to new path, renaming already present files by adding numbers to the end\r\n",
   "\tmkdir\t - creates a new directory\r\n",
   "\tmd5\t - md5 hash of the file\r\n",
   "\tstat\t - info about file or dir\r\n",
   "\ttimestamp\t - last modification timestamp\r\n"]

/-- `storage_cli_print_usage`: one `printf` per line of the usage text. -/
def storageCliPrintUsage : Cli σ Unit := storageCliUsage.forM fun line => printf line []

theorem storageCliPrintUsage_apply (w : World σ) :
    storageCliPrintUsage w = .ret () w (storageCliUsage.map fun line => .printf line []) :=
  forM_emit_apply _ _ w

@[simp] theorem wp_storageCliPrintUsage {Q : Unit → World σ → List Event → Prop}
    {S : List Event → Prop} {w : World σ} :
    wp storageCliPrintUsage Q S w ↔ Q () w (storageCliUsage.map fun line => .printf line []) := by
  rw [wp, storageCliPrintUsage_apply]

@[simp] def storageCliPrintError (error : FsError) : Cli σ Unit :=
  printf "Storage error: %s\r\n" [.str (api.storageErrorGetDesc error)]

end Calls

end StorageCli
