import StorageCli.Model.WalkDefs
import StorageCli.Model.CommandDefs
import StorageCli.Model.TransferDefs
import StorageCli.Model.RamDiskDefs
import StorageCli.Logic.Trace

/-! The listings `list` and `tree` over a directory cursor that yields some entries and then
ends: they print the entries in order and do not tell a failed read from the end. -/

namespace StorageCli

variable {σ : Type} (api : Api σ)

def entryLine (name : String) (fileinfo : FileInfo) : Event :=
  if fileinfo.isDir then .printf "\t[D] %s\r\n" [.str name]
  else .printf "\t[F] %s %lub\r\n" [.str name, .num (fileinfo.size.toNat % 2 ^ 32)]

theorem printEntry_apply (name : String) (fileinfo : FileInfo) (w : World σ) :
    printEntry name fileinfo w = .ret () w [entryLine name fileinfo] := by
  unfold printEntry entryLine
  split <;> simp [emit]

def DirRead.ofEnd : Option FsError → DirRead
  | none => .last
  | some e => .error e

def DirWalkResult.ofEnd (failed : Bool) : DirWalkResult := if failed then .error else .last

/-- The reads of `storage_dir_read` are answered from a list: `cursor s` is what is left of
it, and past its end the reads answer the end of the directory. -/
def ListCursor (cursor : σ → List DirRead) : Prop :=
  ∀ s, (api.storageDirRead maxNameLength s).1 = (cursor s).headD .last ∧
    cursor (api.storageDirRead maxNameLength s).2 = (cursor s).tail

def WalkCursor (walk : σ → List DirWalkResult) : Prop :=
  ∀ s, (api.dirWalkRead s).1 = (walk s).headD .last ∧ walk (api.dirWalkRead s).2 = (walk s).tail

theorem ramDisk_listCursor : ListCursor ramDisk RamDisk.entries := by
  intro s
  cases h : s.entries <;> simp [ramDisk, h]

def listRun : List (FileInfo × String) → List Event
  | [] => []
  | (fileinfo, name) :: es =>
    .storageDirRead (.entry fileinfo name) :: entryLine name fileinfo :: listRun es

def treeRun : List (FileInfo × String) → List Event
  | [] => []
  | (fileinfo, name) :: es =>
    .dirWalkRead (.ok name fileinfo) :: entryLine name fileinfo :: treeRun es

theorem list_loop {cursor : σ → List DirRead} (hc : ListCursor api cursor) (t : Option FsError)
    (more : List DirRead) :
    ∀ (es : List (FileInfo × String)) (fuel : Nat) (readDone : Bool) (w : World σ),
      cursor w.storage = es.map (fun e => .entry e.1 e.2) ++ DirRead.ofEnd t :: more →
      es.length < fuel →
      ∃ s', loop (storageCliListBody api) fuel readDone w =
        .ret (readDone || !es.isEmpty) ⟨s', w.console⟩
          (listRun es ++ [.storageDirRead (DirRead.ofEnd t)]) := by
  intro es
  induction es with
  | nil =>
    intro fuel readDone w hw hfuel
    obtain ⟨f, rfl⟩ := Nat.exists_eq_add_one_of_ne_zero (show fuel ≠ 0 by omega)
    obtain ⟨hread, -⟩ := hc w.storage
    rw [hw] at hread
    refine ⟨(api.storageDirRead maxNameLength w.storage).2, ?_⟩
    cases t <;>
    simp [loop_succ, storageCliListBody, bind_apply, call, hread, DirRead.ofEnd, Outcome.prepend,
      listRun]
  | cons e es ih =>
    intro fuel readDone w hw hfuel
    obtain ⟨f, rfl⟩ := Nat.exists_eq_add_one_of_ne_zero (show fuel ≠ 0 by omega)
    obtain ⟨hread, hrest⟩ := hc w.storage
    rw [hw] at hread hrest
    obtain ⟨s', hrun⟩ := ih f true { w with storage := (api.storageDirRead maxNameLength w.storage).2 }
      (by simpa using hrest) (by simp at hfuel; omega)
    refine ⟨s', ?_⟩
    simp [loop_succ, storageCliListBody, bind_apply, call, hread, printEntry_apply,
      Outcome.prepend, listRun, hrun]

theorem tree_loop {walk : σ → List DirWalkResult} (hc : WalkCursor api walk) (failed : Bool)
    (more : List DirWalkResult) :
    ∀ (es : List (FileInfo × String)) (fuel : Nat) (readDone : Bool) (w : World σ),
      walk w.storage = es.map (fun e => .ok e.2 e.1) ++ DirWalkResult.ofEnd failed :: more →
      es.length < fuel →
      ∃ s', loop (storageCliTreeBody api) fuel readDone w =
        .ret (readDone || !es.isEmpty) ⟨s', w.console⟩
          (treeRun es ++ [.dirWalkRead (DirWalkResult.ofEnd failed)]) := by
  intro es
  induction es with
  | nil =>
    intro fuel readDone w hw hfuel
    obtain ⟨f, rfl⟩ := Nat.exists_eq_add_one_of_ne_zero (show fuel ≠ 0 by omega)
    obtain ⟨hread, -⟩ := hc w.storage
    rw [hw] at hread
    refine ⟨(api.dirWalkRead w.storage).2, ?_⟩
    cases failed <;>
    simp [loop_succ, storageCliTreeBody, bind_apply, call, hread, DirWalkResult.ofEnd,
      Outcome.prepend, treeRun]
  | cons e es ih =>
    intro fuel readDone w hw hfuel
    obtain ⟨f, rfl⟩ := Nat.exists_eq_add_one_of_ne_zero (show fuel ≠ 0 by omega)
    obtain ⟨hread, hrest⟩ := hc w.storage
    rw [hw] at hread hrest
    obtain ⟨s', hrun⟩ := ih f true { w with storage := (api.dirWalkRead w.storage).2 }
      (by simpa using hrest) (by simp at hfuel; omega)
    refine ⟨s', ?_⟩
    simp [loop_succ, storageCliTreeBody, bind_apply, call, hread, printEntry_apply,
      Outcome.prepend, treeRun, hrun]

def emptyLine (es : List (FileInfo × String)) : List Event :=
  if es = [] then [.printf "\tEmpty\r\n" []] else []

theorem storageCliList_run {cursor : σ → List DirRead} (hc : ListCursor api cursor) (fuel : Nat)
    (path : String) (hpath : path ≠ "/") (w : World σ) {s0 : σ}
    (hopen : api.storageDirOpen path w.storage = (true, s0)) (es : List (FileInfo × String))
    (t : Option FsError) (more : List DirRead)
    (hcur : cursor s0 = es.map (fun e => .entry e.1 e.2) ++ DirRead.ofEnd t :: more)
    (hfuel : es.length < fuel) :
    ∃ s', storageCliList api fuel path w = .ret () ⟨api.storageDirClose s', w.console⟩
      ([.furiRecordOpen recordStorage, .storageFileAlloc, .storageDirOpen path true] ++ listRun es ++
        [.storageDirRead (DirRead.ofEnd t)] ++ emptyLine es ++
        [.storageDirClose true, .storageFileFree false, .furiRecordClose recordStorage]) := by
  obtain ⟨s', hrun⟩ := list_loop api hc t more es fuel false ⟨s0, w.console⟩ hcur hfuel
  refine ⟨s', ?_⟩
  simp only [storageCliList, if_neg hpath, bind_apply, furiRecordOpen, storageFileAlloc,
    storageDirOpen, call, emit, hopen, hrun, if_true, Bool.false_or]
  cases es <;> simp [emptyLine, Outcome.prepend, bind_apply, call, emit]

theorem storageCliTree_run {walk : σ → List DirWalkResult} (hc : WalkCursor api walk)
    (fuel : Nat) (path : String) (hpath : path ≠ "/") (w : World σ) {s0 : σ}
    (hopen : api.dirWalkOpen path w.storage = (true, s0)) (es : List (FileInfo × String))
    (failed : Bool) (more : List DirWalkResult)
    (hcur : walk s0 = es.map (fun e => .ok e.2 e.1) ++ DirWalkResult.ofEnd failed :: more)
    (hfuel : es.length < fuel) :
    ∃ s', storageCliTree api (fuel + 1) path w = .ret () ⟨api.storageDirClose s', w.console⟩
      ([.furiRecordOpen recordStorage, .dirWalkAlloc, .furiStringAlloc, .dirWalkOpen path true] ++
        treeRun es ++ [.dirWalkRead (DirWalkResult.ofEnd failed)] ++ emptyLine es ++
        [.furiStringFree, .dirWalkFree true, .furiRecordClose recordStorage]) := by
  obtain ⟨s', hrun⟩ := tree_loop api hc failed more es fuel false ⟨s0, w.console⟩ hcur hfuel
  refine ⟨s', ?_⟩
  simp only [storageCliTree, if_neg hpath, bind_apply, furiRecordOpen, dirWalkAlloc,
    furiStringAlloc, dirWalkOpen, call, emit, hopen, hrun, if_true, Bool.false_or]
  cases es <;> simp [emptyLine, Outcome.prepend, bind_apply, call, emit]

theorem storageCli_listings_ignore_read_errors (fuel : Nat) (path : String) (hpath : path ≠ "/")
    (w : World σ) (es : List (FileInfo × String)) (hfuel : es.length < fuel) :
    (∀ cursor, ListCursor api cursor → ∀ s0, api.storageDirOpen path w.storage = (true, s0) →
      ∀ t more, cursor s0 = es.map (fun e => .entry e.1 e.2) ++ DirRead.ofEnd t :: more →
      ∃ s', storageCliList api fuel path w = .ret () ⟨api.storageDirClose s', w.console⟩
        ([.furiRecordOpen recordStorage, .storageFileAlloc, .storageDirOpen path true] ++
          listRun es ++ [.storageDirRead (DirRead.ofEnd t)] ++ emptyLine es ++
          [.storageDirClose true, .storageFileFree false, .furiRecordClose recordStorage])) ∧
    (∀ walk, WalkCursor api walk → ∀ s0, api.dirWalkOpen path w.storage = (true, s0) →
      ∀ failed more, walk s0 = es.map (fun e => .ok e.2 e.1) ++ DirWalkResult.ofEnd failed :: more →
      ∃ s', storageCliTree api (fuel + 1) path w = .ret () ⟨api.storageDirClose s', w.console⟩
        ([.furiRecordOpen recordStorage, .dirWalkAlloc, .furiStringAlloc, .dirWalkOpen path true] ++
          treeRun es ++ [.dirWalkRead (DirWalkResult.ofEnd failed)] ++ emptyLine es ++
          [.furiStringFree, .dirWalkFree true, .furiRecordClose recordStorage])) :=
  ⟨fun _ hc _ hopen t more hcur => storageCliList_run api hc fuel path hpath w hopen es t more hcur hfuel,
    fun _ hc _ hopen failed more hcur =>
      storageCliTree_run api hc fuel path hpath w hopen es failed more hcur hfuel⟩

def failingDir : RamDisk := { RamDisk.ofFile [] with entries := [.error .internal] }

theorem storageCliList_first_read_fails :
    ∃ s', storageCliList ramDisk 1 "/ext/d" ⟨failingDir, []⟩ =
      .ret () ⟨ramDisk.storageDirClose s', []⟩
        ([.furiRecordOpen recordStorage, .storageFileAlloc, .storageDirOpen "/ext/d" true] ++
          listRun [] ++ [.storageDirRead (DirRead.ofEnd (some .internal))] ++ emptyLine [] ++
          [.storageDirClose true, .storageFileFree false, .furiRecordClose recordStorage]) :=
  (storageCli_listings_ignore_read_errors ramDisk 1 "/ext/d" (by decide) ⟨failingDir, []⟩ []
    (by decide)).1 RamDisk.entries ramDisk_listCursor failingDir rfl (some .internal) [] rfl

example : (storageCliList ramDisk 1 "/ext/d" ⟨failingDir, []⟩).events =
    [.furiRecordOpen recordStorage, .storageFileAlloc, .storageDirOpen "/ext/d" true,
     .storageDirRead (.error .internal), .printf "\tEmpty\r\n" [], .storageDirClose true,
     .storageFileFree false, .furiRecordClose recordStorage] := by
  decide

theorem sizes_printed_cast_to_32_bits (w : World σ) (fileinfo : FileInfo)
    (hfile : fileinfo.isDir = false) :
    (∀ name, printEntry name fileinfo w = .ret () w
      [.printf "\t[F] %s %lub\r\n" [.str name, .num (fileinfo.size.toNat % 2 ^ 32)]]) ∧
    (∀ path s, path ≠ "/" →
      ¬(path = storageExtPathPrefix ∨ path = storageIntPathPrefix ∨ path = storageAnyPathPrefix) →
      api.storageCommonStat path w.storage = ((.ok, fileinfo), s) →
      storageCliStat api path w = .ret () ⟨s, w.console⟩
        [.furiRecordOpen recordStorage, .storageCommonStat path .ok fileinfo,
         .printf "File, size: %lub\r\n" [.num (fileinfo.size.toNat % 2 ^ 32)],
         .furiRecordClose recordStorage]) ∧
    (∀ fuel path s0, api.storageFileOpen path .read .openExisting w.storage = (true, s0) →
      ∃ rest, (storageCliRead api fuel path w).events =
        [.furiRecordOpen recordStorage, .storageFileAlloc,
         .storageFileOpen path .read .openExisting true, .malloc 128,
         .storageFileSize (api.storageFileSize s0),
         .printf "Size: %lu\r\n" [.num ((api.storageFileSize s0).toNat % 2 ^ 32)]] ++ rest) := by
  refine ⟨fun name => by simp [printEntry_apply, entryLine, hfile], fun path s h1 h2 hstat => ?_,
    fun fuel path s0 hopen => events_prefix_of_wp ?_⟩
  · simp only [not_or] at h2
    simp [storageCliStat, h1, h2.1, h2.2.1, h2.2.2, hstat, hfile, bind_apply, call, emit,
      Outcome.prepend]
  · simp only [storageCliRead, wp_bind, wp_call, wp_emit, furiRecordOpen, storageFileAlloc,
      storageFileOpen, hopen, if_true, malloc, storageFileSize, printf]
    exact wp_of_forall (fun _ _ _ => by simp) fun _ => by simp

theorem file_of_4_GiB_prints_size_zero :
    printEntry "big" ⟨false, BitVec.ofNat 64 (2 ^ 32)⟩ ⟨RamDisk.ofFile [], []⟩ =
      .ret () ⟨RamDisk.ofFile [], []⟩ [.printf "\t[F] %s %lub\r\n" [.str "big", .num 0]] :=
  (sizes_printed_cast_to_32_bits ramDisk ⟨RamDisk.ofFile [], []⟩ ⟨false, BitVec.ofNat 64 (2 ^ 32)⟩
    rfl).1 "big"

end StorageCli
