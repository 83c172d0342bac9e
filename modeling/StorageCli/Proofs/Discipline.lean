import StorageCli.Model.DispatchDefs
import StorageCli.Logic.Ledger

/-! Every handler but `format` is tame: it never formats or resets, and each run that returns
releases all it acquired. Each proof executes the handler, then sums the ledger of each trace. -/

namespace StorageCli

variable {σ : Type} (api : Api σ)

theorem storageCliPrintUsage_tame : Tame (storageCliPrintUsage : Cli σ Unit) := by
  intro w
  simp [balanced_iff]

theorem storageCliInfo_tame (path : String) : Tame (storageCliInfo api path) := by
  intro w
  simp only [storageCliInfo, wp_bind, wp_emit, wp_call, wp_ite, wp_storageCliPrintUsage,
    furiRecordOpen, furiRecordClose, storageCommonFsInfo, storageSdInfo, storageCliPrintError,
    printf]
  split_ifs <;> simp [balanced_iff]

theorem storageCliStat_tame (path : String) : Tame (storageCliStat api path) := by
  intro w
  simp only [storageCliStat, wp_bind, wp_emit, wp_call, wp_ite, furiRecordOpen, furiRecordClose,
    storageCommonFsInfo, storageCommonStat, storageCliPrintError, printf]
  split_ifs <;> simp [balanced_iff]

theorem storageCliTimestamp_tame (path : String) : Tame (storageCliTimestamp api path) := by
  intro w
  simp only [storageCliTimestamp, wp_bind, wp_emit, wp_call, wp_ite, furiRecordOpen,
    furiRecordClose, storageCommonTimestamp, printf]
  split_ifs <;> simp [balanced_iff]

theorem storageCliPathPair_tame (op : PairOp) (oldPath args : String) :
    Tame (storageCliPathPair api op oldPath args) := by
  intro w
  rcases h : argsReadProbablyQuotedStringAndTrim args with _ | ⟨newPath, _⟩ <;>
  simp only [storageCliPathPair, h, wp_bind, wp_emit, wp_call, wp_ite, wp_pure,
    wp_storageCliPrintUsage, furiRecordOpen, furiRecordClose, furiStringAlloc, furiStringFree,
    storageCommonPair, storageCliPrintError, printf] <;>
  (try split_ifs) <;> simp [balanced_iff]

theorem storageCliPathOp_tame (op : PathOp) (path : String) :
    Tame (storageCliPathOp api op path) := by
  intro w
  simp only [storageCliPathOp, wp_bind, wp_emit, wp_call, wp_ite, wp_pure, furiRecordOpen,
    furiRecordClose, storageCommonPath, storageCliPrintError, printf]
  split_ifs <;> simp [balanced_iff]

theorem md5ReadBody_tame (data : List UInt8) : Tame (md5ReadBody api data) := by
  intro w
  simp [md5ReadBody, balanced_iff]

theorem storageCliMd5_tame (fuel : Nat) (path : String) : Tame (storageCliMd5 api fuel path) := by
  intro w
  simp only [storageCliMd5, md5StringCalcFile, wp_bind, wp_call, wp_emit, wp_ite, wp_pure,
    furiRecordOpen, storageFileAlloc, furiStringAlloc, storageFileOpen, storageFileGetError,
    printf, storageCliPrintError, furiStringFree, storageFileClose, storageFileFree,
    furiRecordClose]
  split_ifs with h
  · refine (Tame.loop (md5ReadBody_tame api) fuel []).wp _ (fun _ _ e hb hq => ?_)
      fun e hq => by simp [hq]
    split_ifs <;> simp [balanced_iff, h, hb, hq]
  all_goals simp [balanced_iff, h]

theorem storageCliReadBody_tame (bufferSize : Nat) (u : Unit) :
    Tame (storageCliReadBody api bufferSize u) := by
  intro w
  simp [storageCliReadBody, balanced_iff]

theorem storageCliRead_tame (fuel : Nat) (path : String) : Tame (storageCliRead api fuel path) := by
  intro w
  simp only [storageCliRead, wp_bind, wp_call, wp_emit, wp_ite, furiRecordOpen, storageFileAlloc,
    storageFileOpen, malloc, storageFileSize, printf, storageFileGetError, storageCliPrintError,
    free, storageFileClose, storageFileFree, furiRecordClose]
  split_ifs with h
  · exact (Tame.loop (storageCliReadBody_tame api 128) fuel ()).wp _
      (fun _ _ e hb hq => by simp [balanced_iff, h, hb, hq]) fun e hq => by simp [hq]
  · simp [balanced_iff, h]

theorem storageCliWriteBody_tame (bufferSize : Nat) (s : List UInt8 × BitVec 32) :
    Tame (storageCliWriteBody api bufferSize s) := by
  intro w
  simp only [storageCliWriteBody, wp_bind, wp_cliGetc, wp_ite, wp_call, wp_emit, wp_pure, printf,
    storageCliPrintError, storageFileWrite, storageFileGetError]
  simp [balanced_iff]

theorem storageCliWrite_tame (fuel : Nat) (path : String) :
    Tame (storageCliWrite api fuel path) := by
  intro w
  simp only [storageCliWrite, wp_bind, wp_call, wp_emit, wp_ite, furiRecordOpen, storageFileAlloc,
    malloc, storageFileOpen, printf, storageFileGetError, storageCliPrintError, free,
    storageFileClose, storageFileFree, furiRecordClose]
  split_ifs with h
  · exact (Tame.loop (storageCliWriteBody_tame api 512) fuel _).wp _
      (fun _ _ e hb hq => by simp [balanced_iff, h, hb, hq]) fun e hq => by simp [hq]
  · simp [balanced_iff, h]

theorem storageCliReadChunksBody_tame (bufferSize : BitVec 32) (fileSize : BitVec 64) :
    Tame (storageCliReadChunksBody api bufferSize fileSize) := by
  intro w
  simp only [storageCliReadChunksBody, wp_ite, wp_bind, wp_emit, wp_cliGetc, wp_call, wp_pure,
    wp_forM_emit, printf, putchar, storageFileRead]
  split_ifs <;> simp [balanced_iff]

theorem storageCliReadChunks_tame (fuel : Nat) (path args : String) :
    Tame (storageCliReadChunks api fuel path args) := by
  intro w
  rcases hs : sscanfLu args with _ | bufferSize <;>
  simp only [storageCliReadChunks, hs, wp_bind, wp_call, wp_emit, wp_ite, wp_pure,
    wp_storageCliPrintUsage, furiRecordOpen, storageFileAlloc, storageFileOpen, storageFileSize,
    printf, malloc, free, storageFileGetError, storageCliPrintError, storageFileClose,
    storageFileFree, furiRecordClose]
  · simp [balanced_iff]
  split_ifs with h
  · exact (Tame.loop (storageCliReadChunksBody_tame api _) fuel _).wp _
      (fun _ _ e hb hq => by simp [balanced_iff, h, hb, hq]) fun e hq => by simp [hq]
  all_goals simp [balanced_iff, h]

theorem storageCliWriteChunk_tame (path args : String) :
    Tame (storageCliWriteChunk api path args) := by
  intro w
  rcases hs : sscanfLu args with _ | bufferSize <;>
  simp only [storageCliWriteChunk, hs, wp_bind, wp_call, wp_emit, wp_ite, wp_cliRead, wp_pure,
    wp_storageCliPrintUsage, furiRecordOpen, furiRecordClose, storageFileAlloc, storageFileOpen,
    printf, malloc, free, storageFileWrite, storageFileGetError, storageCliPrintError,
    storageFileClose, storageFileFree]
  · simp [balanced_iff]
  · split_ifs with h <;> simp [balanced_iff, h]

theorem storageCliListBody_tame (readDone : Bool) : Tame (storageCliListBody api readDone) := by
  intro w
  simp only [storageCliListBody, storageDirRead, wp_bind, wp_call]
  generalize api.storageDirRead maxNameLength w.storage = p
  rcases p with ⟨_ | _ | _, s⟩ <;>
  simp only [printEntry, wp_bind, wp_emit, wp_pure, wp_ite, printf] <;> (try split_ifs) <;>
  simp [balanced_iff]

theorem storageCliList_tame (fuel : Nat) (path : String) : Tame (storageCliList api fuel path) := by
  intro w
  simp only [storageCliList, wp_bind, wp_call, wp_emit, wp_ite, wp_pure, printf, furiRecordOpen,
    storageFileAlloc, storageDirOpen, storageFileGetError, storageCliPrintError, storageDirClose,
    storageFileFree, furiRecordClose]
  split_ifs with hroot h
  · simp [balanced_iff]
  · refine (Tame.loop (storageCliListBody_tame api) fuel false).wp _ (fun _ _ e hb hq => ?_)
      fun e hq => by simp [hq]
    split_ifs <;> simp [balanced_iff, h, hb, hq]
  · simp [balanced_iff, h]

theorem storageCliTreeBody_tame (readDone : Bool) : Tame (storageCliTreeBody api readDone) := by
  intro w
  simp only [storageCliTreeBody, dirWalkRead, wp_bind, wp_call]
  generalize api.dirWalkRead w.storage = p
  rcases p with ⟨_ | _ | _, s⟩ <;>
  simp only [printEntry, wp_bind, wp_emit, wp_pure, wp_ite, printf] <;> (try split_ifs) <;>
  simp [balanced_iff]

theorem storageCliTree_tame (fuel : Nat) (path : String) : Tame (storageCliTree api fuel path) := by
  induction fuel generalizing path with
  | zero => intro w; simp only [storageCliTree, wp_outOfFuel, quiet_nil]
  | succ fuel ih =>
    simp only [storageCliTree]
    split_ifs
    · exact (ih _).bind fun _ => ih _
    intro w
    simp only [wp_bind, wp_call, wp_emit, wp_ite, wp_pure, furiRecordOpen, dirWalkAlloc,
      furiStringAlloc, dirWalkOpen, printf, dirWalkGetError, storageCliPrintError, furiStringFree,
      dirWalkFree, furiRecordClose]
    split_ifs with h
    · refine (Tame.loop (storageCliTreeBody_tame api) fuel false).wp _ (fun _ _ e hb hq => ?_)
        fun e hq => by simp [hq]
      split_ifs <;> simp [balanced_iff, h, hb, hq]
    · simp [balanced_iff, h]

end StorageCli
