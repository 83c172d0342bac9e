import StorageCli.Model.CommandDefs
import StorageCli.Model.TransferDefs
import StorageCli.Model.WalkDefs

/-! The command `storage_cli` registers: it reads a verb and a path from the line and runs the
handler of the first verb of its table that equals the verb; `factory_reset`, the other
command `storage_on_system_start` registers; and a session, one command line after another. -/

namespace StorageCli

variable {σ : Type} (api : Api σ)

/-- The chain of verb comparisons of `storage_cli`, in the order of the source. -/
def storageCliCommand (fuel : Nat) (cmd path args : String) : Cli σ Unit :=
  if cmd = "info" then storageCliInfo api path
  else if cmd = "format" then storageCliFormat api path
  else if cmd = "list" then storageCliList api fuel path
  else if cmd = "tree" then storageCliTree api fuel path
  else if cmd = "read" then storageCliRead api fuel path
  else if cmd = "read_chunks" then storageCliReadChunks api fuel path args
  else if cmd = "write" then storageCliWrite api fuel path
  else if cmd = "write_chunk" then storageCliWriteChunk api path args
  else if cmd = "copy" then storageCliCopy api path args
  else if cmd = "remove" then storageCliRemove api path
  else if cmd = "rename" then storageCliRename api path args
  else if cmd = "migrate" then storageCliMigrate api path args
  else if cmd = "mkdir" then storageCliMkdir api path
  else if cmd = "md5" then storageCliMd5 api fuel path
  else if cmd = "stat" then storageCliStat api path
  else if cmd = "timestamp" then storageCliTimestamp api path
  else storageCliPrintUsage

def storageCli (fuel : Nat) (args : String) : Cli σ Unit := do
  furiStringAlloc
  furiStringAlloc
  match argsReadStringAndTrim args with
  | none => storageCliPrintUsage
  | some (cmd, args) =>
    match argsReadProbablyQuotedStringAndTrim args with
    | none => storageCliPrintUsage
    | some (path, args) => storageCliCommand api fuel cmd path args
  furiStringFree
  furiStringFree

def storageCliFactoryReset (_args : String) : Cli σ Unit := do
  printf "All data will be lost! Are you sure (y/n)?\r\n" []
  let c ← cliGetc
  if c = 'y'.toUInt8 ∨ c = 'Y'.toUInt8 then
    printf "Data will be wiped after reboot.\r\n" []
    emit (.furiHalRtcSetFlag .factoryReset)
    powerReboot .normal
  else printf "Safe choice.\r\n" []

/-- A command line given to one of the two commands `storage_on_system_start` registers. -/
inductive Command
  | storage (args : String)
  | factoryReset (args : String)

def runCommand (fuel : Nat) : Command → Cli σ Unit
  | .storage args => storageCli api fuel args
  | .factoryReset args => storageCliFactoryReset args

/-- Modelled from the spec: the command loop of the CLI service is not in the source. A session
runs one command line after another; a command that does not return ends it. -/
def session (fuel : Nat) : List Command → Cli σ Unit
  | [] => pure ()
  | c :: cs => do
    runCommand api fuel c
    session fuel cs

end StorageCli
