import StorageCli.Model.ApiDefs

/-! A storage service that keeps one file in memory, to run the handlers on concrete inputs.
Reads take from the unread part of the file, unless the card is failing, when they answer
nothing; writes append to what was written; the directory cursor and the walker answer from
fixed lists; every other call succeeds. -/

namespace StorageCli

structure RamDisk where
  unread : List UInt8
  written : List UInt8
  failing : Bool
  entries : List DirRead
  walk : List DirWalkResult
  fileinfo : FileInfo

def ramDisk : Api RamDisk where
  storageCommonFsInfo _ s := ((.ok, 0, 0), s)
  storageSdInfo s := ((.ok, ⟨"", 0, 0, 0, 0, "", "", 0, 0, 0, 0, 0⟩), s)
  storageSdFormat s := (.ok, s)
  storageCommonStat _ s := ((.ok, s.fileinfo), s)
  storageCommonTimestamp _ s := ((.ok, 0), s)
  storageCommonPair _ _ _ s := (.ok, s)
  storageCommonPath _ _ s := (.ok, s)
  storageFileOpen _ _ _ s := (true, s)
  storageFileClose s := s
  storageFileRead n s :=
    if s.failing then ([], s) else (s.unread.take n, { s with unread := s.unread.drop n })
  storageFileWrite data s := (data.length, { s with written := s.written ++ data })
  storageFileSize s := BitVec.ofNat 64 s.unread.length
  storageFileGetError s := if s.failing then .internal else .ok
  storageDirOpen _ s := (true, s)
  storageDirRead _ s :=
    match s.entries with
    | [] => (.last, s)
    | r :: rs => (r, { s with entries := rs })
  storageDirClose s := s
  dirWalkOpen _ s := (true, s)
  dirWalkRead s :=
    match s.walk with
    | [] => (.last, s)
    | r :: rs => (r, { s with walk := rs })
  dirWalkGetError s := if s.failing then .internal else .ok
  storageErrorGetDesc _ := "internal error"
  sdApiGetFsTypeText _ := "FAT32"
  furiHalVersionGetNamePtr := none
  md5 data := data

/-- A card holding the file `unread`, nothing written yet, with no directory entries. -/
def RamDisk.ofFile (unread : List UInt8) : RamDisk := ⟨unread, [], false, [], [], ⟨false, 0⟩⟩

end StorageCli
