import Mathlib.Data.List.Basic
import Mathlib.Algebra.Group.Nat.Basic

/-! What the handlers of `storage_cli.c` exchange with their collaborators: the answers of the
storage service, the console's pending input, and the events a run emits, in order. A handler
is a function of the world that either returns or stops on the way (waiting for a key, out of
fuel, or rebooting the device); in both cases the events it emitted are kept. -/

namespace StorageCli

inductive FsError
  | ok | notReady | exist | notExist | invalidParameter | denied | invalidName | internal
  | notImplemented | alreadyOpen
  deriving DecidableEq, Repr

inductive FsAccessMode
  | read | write
  deriving DecidableEq, Repr

inductive FsOpenMode
  | openExisting | openAppend
  deriving DecidableEq, Repr

structure FileInfo where
  isDir : Bool
  size : BitVec 64
  deriving DecidableEq, Repr

/-- One answer of the directory cursor behind `storage_dir_read`: an entry, the normal end of
the directory, or a failed read. -/
inductive DirRead
  | entry (fileinfo : FileInfo) (name : String)
  | last
  | error (error : FsError)
  deriving DecidableEq, Repr

inductive DirWalkResult
  | ok (name : String) (fileinfo : FileInfo)
  | error
  | last
  deriving DecidableEq, Repr

structure SDInfo where
  label : String
  fsType : Nat
  kbTotal : Nat
  kbFree : Nat
  manufacturerId : Nat
  oemId : String
  productName : String
  productRevisionMajor : Nat
  productRevisionMinor : Nat
  productSerialNumber : Nat
  manufacturingMonth : Nat
  manufacturingYear : Nat
  deriving DecidableEq, Repr

/-- A `printf` argument, after the C conversions the source applies to it. -/
inductive PrintfArg
  | str (s : String)
  | num (n : Nat)
  | chr (c : UInt8)
  deriving DecidableEq, Repr

inductive PairOp
  | copy | rename | migrate
  deriving DecidableEq, Repr

inductive PathOp
  | remove | mkdir
  deriving DecidableEq, Repr

inductive FuriHalRtcFlag
  | factoryReset
  deriving DecidableEq, Repr

inductive PowerBootMode
  | normal
  deriving DecidableEq, Repr

/-- One call a handler makes, with the answer it got. Object handles carry whether they were
open when closed or freed, which is all the resource ledger needs of them. -/
inductive Event
  | printf (format : String) (args : List PrintfArg)
  | putchar (c : UInt8)
  | cliGetc (c : UInt8)
  | cliRead (size : Nat) (data : List UInt8)
  | furiRecordOpen (name : String)
  | furiRecordClose (name : String)
  | furiStringAlloc
  | furiStringFree
  | malloc (size : Nat)
  | free
  | storageFileAlloc
  | storageFileFree (wasOpen : Bool)
  | storageFileOpen (path : String) (access : FsAccessMode) (mode : FsOpenMode) (ok : Bool)
  | storageFileClose (wasOpen : Bool)
  | storageFileRead (size : Nat) (data : List UInt8)
  | storageFileWrite (data : List UInt8) (written : Nat)
  | storageFileSize (size : BitVec 64)
  | storageFileGetError (error : FsError)
  | storageDirOpen (path : String) (ok : Bool)
  | storageDirRead (result : DirRead)
  | storageDirClose (wasOpen : Bool)
  | dirWalkAlloc
  | dirWalkFree (wasOpen : Bool)
  | dirWalkOpen (path : String) (ok : Bool)
  | dirWalkRead (result : DirWalkResult)
  | dirWalkGetError (error : FsError)
  | storageCommonFsInfo (path : String) (error : FsError) (totalSpace freeSpace : BitVec 64)
  | storageSdInfo (error : FsError) (info : SDInfo)
  | storageSdFormat (error : FsError)
  | storageCommonStat (path : String) (error : FsError) (fileinfo : FileInfo)
  | storageCommonTimestamp (path : String) (error : FsError) (timestamp : BitVec 32)
  | storageCommonPair (op : PairOp) (oldPath newPath : String) (error : FsError)
  | storageCommonPath (op : PathOp) (path : String) (error : FsError)
  | furiHalRtcSetFlag (flag : FuriHalRtcFlag)
  | powerReboot (mode : PowerBootMode)
  deriving DecidableEq, Repr

structure World (σ : Type) where
  storage : σ
  console : List UInt8

/-- Why a run ended without returning. -/
inductive Stop
  | input
  | fuel
  | reboot
  deriving DecidableEq, Repr

inductive Outcome (σ α : Type)
  | ret (a : α) (w : World σ) (evs : List Event)
  | stop (why : Stop) (evs : List Event)

def Outcome.events {σ α : Type} : Outcome σ α → List Event
  | .ret _ _ evs => evs
  | .stop _ evs => evs

def Outcome.prepend {σ α : Type} (evs : List Event) : Outcome σ α → Outcome σ α
  | .ret a w evs' => .ret a w (evs ++ evs')
  | .stop why evs' => .stop why (evs ++ evs')

def Cli (σ α : Type) : Type := World σ → Outcome σ α

instance {σ : Type} : Monad (Cli σ) where
  pure a := fun w => .ret a w []
  bind x f := fun w =>
    match x w with
    | .ret a w' evs => (f a w').prepend evs
    | .stop why evs => .stop why evs

section Primitives
variable {σ : Type}

def emit (e : Event) : Cli σ Unit := fun w => .ret () w [e]

@[simp] def printf (format : String) (args : List PrintfArg) : Cli σ Unit :=
  emit (.printf format args)

@[simp] def putchar (c : UInt8) : Cli σ Unit := emit (.putchar c)

/-- `cli_getc` blocks until a key is typed: with no pending input the run waits. -/
def cliGetc : Cli σ UInt8 := fun w =>
  match w.console with
  | [] => .stop .input []
  | c :: cs => .ret c { w with console := cs } [.cliGetc c]

/-- Modelled from the spec: `cli_read` is not in the source. It is a single bounded read: it
answers what the console delivers, at most `size` bytes. -/
def cliRead (size : Nat) : Cli σ (List UInt8) := fun w =>
  .ret (w.console.take size) { w with console := w.console.drop size }
    [.cliRead size (w.console.take size)]

@[simp] def furiRecordOpen (name : String) : Cli σ Unit := emit (.furiRecordOpen name)

@[simp] def furiRecordClose (name : String) : Cli σ Unit := emit (.furiRecordClose name)

@[simp] def furiStringAlloc : Cli σ Unit := emit .furiStringAlloc

@[simp] def furiStringFree : Cli σ Unit := emit .furiStringFree

/-- Modelled from the spec: the allocator is the platform's, not in the source. Every allocation
is taken to succeed, although `read_chunks` and `write_chunk` ask for the size the user typed,
up to `2^32 - 1` bytes, and never check for `NULL`. -/
@[simp] def malloc (size : Nat) : Cli σ Unit := emit (.malloc size)

@[simp] def free : Cli σ Unit := emit .free

def outOfFuel {α : Type} : Cli σ α := fun _ => .stop .fuel []

end Primitives

/-- How one pass of a loop body ends: go round again, or leave the loop. -/
inductive Step (β : Type)
  | next (b : β)
  | done (b : β)

/-- A C loop, one pass of `body` per unit of fuel. -/
def loop {σ β : Type} (body : β → Cli σ (Step β)) : Nat → β → Cli σ β
  | 0, _ => outOfFuel
  | fuel + 1, b => body b >>= fun
    | .next b' => loop body fuel b'
    | .done b' => pure b'

end StorageCli
