import StorageCli.Model.TransferDefs
import StorageCli.Model.RamDiskDefs
import StorageCli.Logic.Trace
import StorageCli.Logic.Frame

/-! The read loops of `read` and `read_chunks` over a file read in order, the spin of the
handshake loop once reads answer nothing, and the relay of what is read. -/

namespace StorageCli

variable {σ : Type} (api : Api σ)

theorem storageCliReadChunksBody_pos (n : BitVec 32) {b : BitVec 64} (hb : 0 < b) (w : World σ)
    (k : UInt8) (ks : List UInt8) (hc : w.console = k :: ks) :
    storageCliReadChunksBody api n b w =
      .ret (.next (b - BitVec.ofNat 64 (api.storageFileRead n.toNat w.storage).1.length))
        ⟨(api.storageFileRead n.toNat w.storage).2, ks⟩
        ([.printf "\r\nReady?\r\n" [], .cliGetc k,
          .storageFileRead n.toNat (api.storageFileRead n.toNat w.storage).1] ++
          (api.storageFileRead n.toNat w.storage).1.map .putchar) := by
  rw [storageCliReadChunksBody, if_pos hb]
  simp [bind_apply, cliGetc, hc, emit, call, Outcome.prepend, forM_emit_apply]

theorem storageCliReadChunksBody_zero (n : BitVec 32) (w : World σ) :
    storageCliReadChunksBody api n 0 w = .ret (.done 0) w [] := by
  simp [storageCliReadChunksBody]; rfl

theorem storageCliReadChunksBody_waits (n : BitVec 32) {b : BitVec 64} (hb : 0 < b)
    (w : World σ) (hc : w.console = []) :
    storageCliReadChunksBody api n b w = .stop .input [.printf "\r\nReady?\r\n" []] := by
  rw [storageCliReadChunksBody, if_pos hb]
  simp [bind_apply, cliGetc, hc, emit, Outcome.prepend]

theorem storageCliReadBody_apply (w : World σ) :
    storageCliReadBody api 128 () w =
      .ret (if (api.storageFileRead 128 w.storage).1.length > 0 then .next () else .done ())
        { w with storage := (api.storageFileRead 128 w.storage).2 }
        (.storageFileRead 128 (api.storageFileRead 128 w.storage).1 ::
          (api.storageFileRead 128 w.storage).1.map fun c => .printf "%c" [.chr c]) := by
  simp [storageCliReadBody, bind_apply, call, emit, Outcome.prepend, forM_emit_apply]

theorem toNat_pos_of_ne_zero {n : BitVec 32} (h : n ≠ 0) : 0 < n.toNat :=
  Nat.pos_of_ne_zero fun h' => h (BitVec.eq_of_toNat_eq (by simpa using h'))

theorem ofNat_sub_ofNat {L m : Nat} (hm : m ≤ L) (hL : L < 2 ^ 64) :
    BitVec.ofNat 64 L - BitVec.ofNat 64 m = BitVec.ofNat 64 (L - m) := by
  apply BitVec.eq_of_toNat_eq
  simp only [BitVec.toNat_sub, BitVec.toNat_ofNat]
  omega

theorem ceil_div_step {L n : Nat} (hn : 0 < n) (hL : 0 < L) :
    (L + n - 1) / n = (L - n + n - 1) / n + 1 := by
  rcases Nat.lt_or_ge L n with h | h
  · rw [Nat.div_eq_of_lt_le (show 1 * n ≤ L + n - 1 by omega)
      (show L + n - 1 < (1 + 1) * n by omega), Nat.div_eq_of_lt (by omega)]
  · rw [← Nat.add_div_right _ hn]; congr 1; omega

/-- A storage service whose open file is read in order: `unread s` is the part of the file not
read yet, and a read of `n` bytes answers the next `n` of them, or all that are left. -/
def SequentialReads (unread : σ → List UInt8) : Prop :=
  ∀ n s, (api.storageFileRead n s).1 = (unread s).take n ∧
    unread (api.storageFileRead n s).2 = (unread s).drop n

def ramUnread (s : RamDisk) : List UInt8 := if s.failing then [] else s.unread

theorem ramDisk_sequentialReads : SequentialReads ramDisk ramUnread := by
  intro n s
  by_cases h : s.failing <;> simp [ramDisk, ramUnread, h]

def readChunksRun (n : Nat) : List UInt8 → List UInt8 → List Event
  | [], _ => []
  | k :: ks, c => [.printf "\r\nReady?\r\n" [], .cliGetc k, .storageFileRead n (c.take n)] ++
      (c.take n).map .putchar ++ readChunksRun n ks (c.drop n)

theorem readChunks_loop {unread : σ → List UInt8} (hr : SequentialReads api unread)
    {n : BitVec 32} (hn : n ≠ 0) :
    ∀ (ks c : List UInt8) (fuel : Nat) (w : World σ) (rest : List UInt8),
      ks.length = (c.length + n.toNat - 1) / n.toNat → ks.length < fuel → c.length < 2 ^ 64 →
      unread w.storage = c → w.console = ks ++ rest →
      ∃ s', loop (storageCliReadChunksBody api n) fuel (BitVec.ofNat 64 c.length) w =
        .ret 0 ⟨s', rest⟩ (readChunksRun n.toNat ks c) ∧ unread s' = [] := by
  have hpos := toNat_pos_of_ne_zero hn
  intro ks
  induction ks with
  | nil =>
    intro c fuel w rest hks hfuel _ hu hw
    have hc : c = [] := List.length_eq_zero.1 (by
      by_contra h
      have := Nat.div_pos (show n.toNat ≤ c.length + n.toNat - 1 by omega) hpos
      simp at hks; omega)
    subst hc
    obtain ⟨f, rfl⟩ := Nat.exists_eq_add_one_of_ne_zero (show fuel ≠ 0 by omega)
    refine ⟨w.storage, ?_, hu⟩
    rw [loop_succ, bind_apply, List.length_nil, show BitVec.ofNat 64 0 = 0 from rfl,
      storageCliReadChunksBody_zero]
    obtain ⟨s, console⟩ := w
    simp at hw
    simp [hw, Outcome.prepend, readChunksRun]
  | cons k ks ih =>
    intro c fuel w rest hks hfuel hL hu hw
    have hlen : 0 < c.length := by
      by_contra h
      rw [Nat.eq_zero_of_not_pos h, Nat.zero_add, Nat.div_eq_of_lt (by omega)] at hks
      simp at hks
    obtain ⟨f, rfl⟩ := Nat.exists_eq_add_one_of_ne_zero (show fuel ≠ 0 by omega)
    have hb : (0 : BitVec 64) < BitVec.ofNat 64 c.length := by
      simp [BitVec.lt_def]; omega
    obtain ⟨hread, hrest⟩ := hr n.toNat w.storage
    rw [hu] at hread hrest
    have hnext : BitVec.ofNat 64 c.length - BitVec.ofNat 64 (c.take n.toNat).length =
        BitVec.ofNat 64 (c.drop n.toNat).length := by
      rw [ofNat_sub_ofNat (List.length_take_le' _ _) hL, List.length_drop, List.length_take]
      congr 1; omega
    obtain ⟨s', hrun, hs'⟩ := ih (c.drop n.toNat) f ⟨_, ks ++ rest⟩ rest
      (by simp at hks ⊢; rw [ceil_div_step hpos hlen] at hks; omega) (by simp at hfuel; omega)
      (by simp; omega) hrest rfl
    refine ⟨s', ?_, hs'⟩
    rw [loop_succ, bind_apply, storageCliReadChunksBody_pos api n hb w k (ks ++ rest) (by simp [hw])]
    simp only [hread, hnext]
    rw [hrun]
    simp [Outcome.prepend, readChunksRun]

theorem keys_readChunksRun (n : Nat) : ∀ ks c, keys (readChunksRun n ks c) = ks
  | [], _ => rfl
  | k :: ks, c => by simp [readChunksRun, keys_readChunksRun n ks, -List.map_take]

theorem putchars_readChunksRun (n : Nat) :
    ∀ ks c, putchars (readChunksRun n ks c) = c.take (n * ks.length)
  | [], _ => rfl
  | k :: ks, c => by
    simp only [readChunksRun, putchars_append, putchars_map_putchar, putchars_readChunksRun n ks]
    rw [List.length_cons, Nat.mul_succ, Nat.add_comm, List.take_add]
    simp

theorem le_mul_ceil {L n : Nat} (hn : 0 < n) : L ≤ n * ((L + n - 1) / n) := by
  have := Nat.div_add_mod (L + n - 1) n
  have := Nat.mod_lt (L + n - 1) hn
  omega

def readRun : Nat → List UInt8 → List Event
  | 0, _ => [.storageFileRead 128 []]
  | k + 1, c => .storageFileRead 128 (c.take 128) ::
      (c.take 128).map (fun b => .printf "%c" [.chr b]) ++ readRun k (c.drop 128)

theorem read_loop {unread : σ → List UInt8} (hr : SequentialReads api unread) :
    ∀ (k : Nat) (c : List UInt8) (fuel : Nat) (w : World σ), k = (c.length + 127) / 128 →
      k < fuel → unread w.storage = c →
      ∃ s', loop (storageCliReadBody api 128) fuel () w = .ret () ⟨s', w.console⟩ (readRun k c) ∧
        unread s' = [] := by
  intro k
  induction k with
  | zero =>
    intro c fuel w hk hfuel hu
    have hc : c = [] := List.length_eq_zero.1 (by omega)
    subst hc
    obtain ⟨f, rfl⟩ := Nat.exists_eq_add_one_of_ne_zero (show fuel ≠ 0 by omega)
    obtain ⟨hread, hrest⟩ := hr 128 w.storage
    rw [hu] at hread hrest
    refine ⟨_, ?_, by simpa using hrest⟩
    rw [loop_succ, bind_apply, storageCliReadBody_apply]
    simp [hread, Outcome.prepend, readRun]
  | succ k ih =>
    intro c fuel w hk hfuel hu
    have hlen : 0 < c.length := by omega
    obtain ⟨f, rfl⟩ := Nat.exists_eq_add_one_of_ne_zero (show fuel ≠ 0 by omega)
    obtain ⟨hread, hrest⟩ := hr 128 w.storage
    rw [hu] at hread hrest
    obtain ⟨s', hrun, hs'⟩ := ih (c.drop 128) f { w with storage := (api.storageFileRead 128 w.storage).2 }
      (by simp; omega) (by omega) hrest
    refine ⟨s', ?_, hs'⟩
    rw [loop_succ, bind_apply, storageCliReadBody_apply]
    have hpos : (c.take 128).length > 0 := by simp; omega
    simp only [hread, hpos, if_true]
    rw [hrun]
    simp [Outcome.prepend, readRun]

theorem readRun_reads : ∀ k c, (reads (readRun k c)).length = k + 1 ∧
    (reads (readRun k c)).getLast? = some [] ∧ (reads (readRun k c)).flatten = c.take (128 * k) ∧
    echoes (readRun k c) = c.take (128 * k)
  | 0, _ => by simp [readRun]
  | k + 1, c => by
    obtain ⟨hlen, hlast, hflat, hecho⟩ := readRun_reads k (c.drop 128)
    have htake : c.take (128 * (k + 1)) = c.take 128 ++ (c.drop 128).take (128 * k) := by
      rw [Nat.mul_succ, Nat.add_comm, List.take_add]
    simp only [readRun, reads_cons, reads_append, reads_map_echo, echoes_cons, echoes_append,
      echoes_map_echo, Event.read?, Event.echo?, Option.toList, List.singleton_append,
      List.nil_append, List.length_cons, List.flatten_cons, htake, hlen, hflat, hecho, and_true,
      List.getLast?_cons, hlast, Option.getD_some]

def readChunksHead (path : String) (L : Nat) : List Event :=
  [.furiRecordOpen recordStorage, .storageFileAlloc, .storageFileOpen path .read .openExisting true,
   .storageFileSize (BitVec.ofNat 64 L), .printf "Size: %llu\r\n" [.num L]]

def readChunksTail : List Event :=
  [.printf "\r\n" [], .storageFileClose true, .storageFileFree false, .furiRecordClose recordStorage]

section Handlers
variable {unread : σ → List UInt8} (fuel : Nat) (path : String) (w : World σ) {c : List UInt8}
  {s0 : σ}

theorem storageCliReadChunks_run (hr : SequentialReads api unread)
    (hopen : api.storageFileOpen path .read .openExisting w.storage = (true, s0))
    (hc : unread s0 = c) (hsize : api.storageFileSize s0 = BitVec.ofNat 64 c.length)
    (hL : c.length < 2 ^ 64) (args : String) {n : BitVec 32} (hn : sscanfLu args = some n)
    (hn0 : n ≠ 0) {ks rest : List UInt8} (hks : ks.length = (c.length + n.toNat - 1) / n.toNat)
    (hfuel : ks.length < fuel) (hw : w.console = ks ++ rest) :
    ∃ s', storageCliReadChunks api fuel path args w = .ret () ⟨api.storageFileClose s', rest⟩
      (readChunksHead path c.length ++ .malloc n.toNat :: readChunksRun n.toNat ks c ++
        .free :: readChunksTail) := by
  obtain ⟨s', hrun, -⟩ := readChunks_loop api hr hn0 ks c fuel ⟨s0, w.console⟩ rest hks hfuel hL hc hw
  have hn0' : ¬n = 0#32 := hn0
  have hL' : c.length < 18446744073709551616 := hL
  refine ⟨s', ?_⟩
  simp [storageCliReadChunks, bind_apply, call, emit, hn, hn0', hopen, hsize, hrun,
    Outcome.prepend, readChunksHead, readChunksTail, Nat.mod_eq_of_lt hL', hL']

theorem storageCliReadChunks_run_zero
    (hopen : api.storageFileOpen path .read .openExisting w.storage = (true, s0))
    (hsize : api.storageFileSize s0 = BitVec.ofNat 64 c.length) (hL : c.length < 2 ^ 64)
    (args : String) (hn : sscanfLu args = some 0) :
    storageCliReadChunks api fuel path args w =
      .ret () ⟨api.storageFileClose s0, w.console⟩ (readChunksHead path c.length ++ readChunksTail) := by
  have hL' : c.length < 18446744073709551616 := hL
  simp [storageCliReadChunks, bind_apply, call, emit, hn, hopen, hsize, Outcome.prepend,
    readChunksHead, readChunksTail, Nat.mod_eq_of_lt hL', hL']

def readHead (path : String) (L : Nat) : List Event :=
  [.furiRecordOpen recordStorage, .storageFileAlloc, .storageFileOpen path .read .openExisting true,
   .malloc 128, .storageFileSize (BitVec.ofNat 64 L), .printf "Size: %lu\r\n" [.num (L % 2 ^ 32)]]

def readTail : List Event :=
  [.printf "\r\n" [], .free, .storageFileClose true, .storageFileFree false,
   .furiRecordClose recordStorage]

theorem storageCliRead_run (hr : SequentialReads api unread)
    (hopen : api.storageFileOpen path .read .openExisting w.storage = (true, s0))
    (hc : unread s0 = c) (hsize : api.storageFileSize s0 = BitVec.ofNat 64 c.length)
    (hL : c.length < 2 ^ 64) (hfuel : (c.length + 127) / 128 < fuel) :
    ∃ s', storageCliRead api fuel path w = .ret () ⟨api.storageFileClose s', w.console⟩
      (readHead path c.length ++ readRun ((c.length + 127) / 128) c ++ readTail) := by
  obtain ⟨s', hrun, -⟩ := read_loop api hr _ c fuel ⟨s0, w.console⟩ rfl hfuel hc
  have hL' : c.length < 18446744073709551616 := hL
  refine ⟨s', ?_⟩
  simp [storageCliRead, bind_apply, call, emit, hopen, hsize, hrun, Outcome.prepend, readHead,
    readTail, Nat.mod_eq_of_lt hL', hL']

end Handlers

theorem storageCli_reads_deliver_file {unread : σ → List UInt8}
    (hr : SequentialReads api unread) (fuel : Nat) (path : String) (w : World σ) (c : List UInt8)
    (s0 : σ) (hopen : api.storageFileOpen path .read .openExisting w.storage = (true, s0))
    (hc : unread s0 = c) (hsize : api.storageFileSize s0 = BitVec.ofNat 64 c.length)
    (hL : c.length < 2 ^ 64) :
    (∀ args (n : BitVec 32) (ks rest : List UInt8), sscanfLu args = some n → n ≠ 0 →
      ks.length = (c.length + n.toNat - 1) / n.toNat → ks.length < fuel →
      w.console = ks ++ rest →
      (∃ s', loop (storageCliReadChunksBody api n) fuel (BitVec.ofNat 64 c.length)
        ⟨s0, w.console⟩ = .ret 0 ⟨s', rest⟩ (readChunksRun n.toNat ks c)) ∧
      (∃ s', storageCliReadChunks api fuel path args w = .ret () ⟨api.storageFileClose s', rest⟩
        (readChunksHead path c.length ++ .malloc n.toNat :: readChunksRun n.toNat ks c ++
          .free :: readChunksTail)) ∧
      keys (readChunksRun n.toNat ks c) = ks ∧ putchars (readChunksRun n.toNat ks c) = c) ∧
    (∀ args, sscanfLu args = some 0 → storageCliReadChunks api fuel path args w =
      .ret () ⟨api.storageFileClose s0, w.console⟩ (readChunksHead path c.length ++ readChunksTail)) ∧
    ((c.length + 127) / 128 < fuel →
      (∃ s', storageCliRead api fuel path w = .ret () ⟨api.storageFileClose s', w.console⟩
        (readHead path c.length ++ readRun ((c.length + 127) / 128) c ++ readTail)) ∧
      (reads (readRun ((c.length + 127) / 128) c)).length = (c.length + 127) / 128 + 1 ∧
      (reads (readRun ((c.length + 127) / 128) c)).getLast? = some [] ∧
      echoes (readRun ((c.length + 127) / 128) c) = c) := by
  refine ⟨fun args n ks rest hn hn0 hks hfuel hw => ?_,
    storageCliReadChunks_run_zero api fuel path w hopen hsize hL, fun hfuel => ?_⟩
  · have hpos := toNat_pos_of_ne_zero hn0
    obtain ⟨s', hrun, -⟩ := readChunks_loop api hr hn0 ks c fuel ⟨s0, w.console⟩ rest hks hfuel hL hc hw
    refine ⟨⟨s', hrun⟩, storageCliReadChunks_run api fuel path w hr hopen hc hsize hL args hn hn0 hks
      hfuel hw, keys_readChunksRun _ _ _, ?_⟩
    rw [putchars_readChunksRun, hks]
    exact List.take_of_length_le (le_mul_ceil hpos)
  · obtain ⟨hlen, hlast, -, hecho⟩ := readRun_reads ((c.length + 127) / 128) c
    refine ⟨storageCliRead_run api fuel path w hr hopen hc hsize hL hfuel, hlen, hlast, ?_⟩
    rw [hecho]
    exact List.take_of_length_le (by omega)

theorem storageCli_reads_deliver_file_abc :
    putchars (readChunksRun 2 [13, 13] [97, 98, 99]) = [97, 98, 99] ∧
    (reads (readRun 1 [97, 98, 99])).length = 2 :=
  have h := storageCli_reads_deliver_file ramDisk ramDisk_sequentialReads 3 "/ext/abc"
    ⟨RamDisk.ofFile [97, 98, 99], [13, 13]⟩ [97, 98, 99] (RamDisk.ofFile [97, 98, 99]) rfl rfl rfl
    (by decide)
  ⟨(h.1 "2" 2 [13, 13] [] (by decide) (by decide) (by decide) (by decide) rfl).2.2.2,
    (h.2.2 (by decide)).2.1⟩

theorem storageCliRead_one_byte_reads_twice :
    (reads (storageCliRead ramDisk 3 "/ext/a" ⟨RamDisk.ofFile [97], []⟩).events).length = 2 ∧
      1 / 128 + 1 ≠ 2 := by
  decide

theorem readChunks_loop_spins_on_failed_reads (n : BitVec 32) {b : BitVec 64} (hb : 0 < b)
    (P : σ → Prop)
    (hP : ∀ s, P s → (api.storageFileRead n.toNat s).1 = [] ∧ P (api.storageFileRead n.toNat s).2)
    (fuel : Nat) (w : World σ) (hw : P w.storage) :
    wp (loop (storageCliReadChunksBody api n) fuel b) (fun _ _ _ => False)
      (fun evs => (∀ error, Event.storageFileGetError error ∉ evs) ∧ ∀ data ∈ reads evs, data = [])
      w := by
  have run := wp_loop (storageCliReadChunksBody api n)
    (fun b' w evs => b' = b ∧ P w.storage ∧ (∀ error, Event.storageFileGetError error ∉ evs) ∧
      ∀ data ∈ reads evs, data = [])
    (fun _ _ _ => False)
    (fun evs => (∀ error, Event.storageFileGetError error ∉ evs) ∧ ∀ data ∈ reads evs, data = [])
    (fun b' w evs ⟨hb', hPw, herr, hreads⟩ => ?_) (fun _ _ _ h => h.2.2) fuel b w []
    ⟨rfl, hw, by simp, by simp⟩
  · simpa only [List.nil_append] using run
  subst hb'
  obtain ⟨hnil, hP'⟩ := hP w.storage hPw
  cases hc : w.console with
  | nil =>
    rw [wp, storageCliReadChunksBody_waits api n hb w hc]
    simpa using ⟨herr, hreads⟩
  | cons k ks =>
    rw [wp, storageCliReadChunksBody_pos api n hb w k ks hc]
    simp only [hnil, List.length_nil, BitVec.ofNat_eq_ofNat, BitVec.sub_zero, true_and, hP']
    simp [herr]
    exact fun d hd => hd.elim (hreads d) id

theorem readChunks_loop_spins_on_failing_card :
    wp (loop (storageCliReadChunksBody ramDisk 1) 5 1) (fun _ _ _ => False)
      (fun evs => (∀ error, Event.storageFileGetError error ∉ evs) ∧ ∀ data ∈ reads evs, data = [])
      ⟨{ RamDisk.ofFile [97] with failing := true }, [13, 13, 13]⟩ :=
  readChunks_loop_spins_on_failed_reads ramDisk 1 (by decide) (fun s => s.failing = true)
    (fun s hs => by simp [ramDisk, hs]) 5 _ rfl

example : storageCliReadChunks ramDisk 5 "/ext/a" "1"
      ⟨{ RamDisk.ofFile [97] with failing := true }, [13, 13]⟩ =
    .stop .input ([.furiRecordOpen recordStorage, .storageFileAlloc,
      .storageFileOpen "/ext/a" .read .openExisting true, .storageFileSize 1,
      .printf "Size: %llu\r\n" [.num 1], .malloc 1] ++
      [.printf "\r\nReady?\r\n" [], .cliGetc 13, .storageFileRead 1 []] ++
      [.printf "\r\nReady?\r\n" [], .cliGetc 13, .storageFileRead 1 []] ++
      [.printf "\r\nReady?\r\n" []]) := rfl

section Relay

def ChunkRelay (evs : List Event) : Prop :=
  putchars evs = (reads evs).flatten ∧ (keys evs).length = (reads evs).length

theorem ChunkRelay.append {evs evs' : List Event} (h : ChunkRelay evs) (h' : ChunkRelay evs') :
    ChunkRelay (evs ++ evs') := by
  simp only [ChunkRelay, putchars_append, reads_append, keys_append, List.flatten_append,
    List.length_append, h.1, h.2, h'.1, h'.2, and_self]

theorem echoRelay_append {evs evs' : List Event} (h : echoes evs = (reads evs).flatten)
    (h' : echoes evs' = (reads evs').flatten) :
    echoes (evs ++ evs') = (reads (evs ++ evs')).flatten := by
  simp only [echoes_append, reads_append, List.flatten_append, h, h']

theorem storageCliReadChunksBody_relays (n : BitVec 32) (b : BitVec 64) (w : World σ) :
    wp (storageCliReadChunksBody api n b) (fun _ _ e => ChunkRelay e) ChunkRelay w := by
  unfold storageCliReadChunksBody
  split_ifs <;>
  simp only [ChunkRelay, wp_bind, wp_emit, wp_cliGetc, wp_call, wp_pure, wp_forM_emit, printf,
    storageFileRead, putchar, putchars_cons, reads_cons, keys_cons, putchars_append, reads_append,
    keys_append, putchars_nil, reads_nil, keys_nil, putchars_map_putchar, reads_map_putchar,
    keys_map_putchar, Event.byte?, Event.read?, Event.key?, Option.toList, List.nil_append,
    List.append_nil, List.flatten_nil, List.flatten_cons, List.length_nil, List.length_cons,
    List.singleton_append, and_self, implies_true]

theorem storageCliReadBody_relays (u : Unit) (w : World σ) :
    wp (storageCliReadBody api 128 u) (fun _ _ e => echoes e = (reads e).flatten)
      (fun e => echoes e = (reads e).flatten) w := by
  simp only [storageCliReadBody, wp_bind, wp_call, wp_pure, wp_forM_emit, storageFileRead, printf,
    echoes_cons, reads_cons, echoes_map_echo, reads_map_echo, Event.echo?, Event.read?,
    Option.toList, List.nil_append, List.flatten_cons, List.flatten_nil, List.append_nil,
    List.singleton_append, and_self]

theorem storageCli_reads_relay_bytes (fuel : Nat) (path args : String) (w : World σ) :
    wp (storageCliRead api fuel path) (fun _ _ evs => echoes evs = (reads evs).flatten)
      (fun evs => echoes evs = (reads evs).flatten) w ∧
    wp (storageCliReadChunks api fuel path args) (fun _ _ evs => ChunkRelay evs) ChunkRelay w := by
  constructor
  · simp only [storageCliRead, wp_bind, wp_call, wp_emit, wp_ite, furiRecordOpen, storageFileAlloc,
      storageFileOpen, malloc, storageFileSize, printf, storageFileGetError, storageCliPrintError,
      free, storageFileClose, storageFileFree, furiRecordClose]
    split_ifs
    · refine wp_mono (wp_loop_of_append (storageCliReadBody_relays api) rfl
        (fun _ _ => echoRelay_append) fuel () _) (fun _ _ e he => ?_) fun e he => ?_ <;>
      simpa only [echoes_append, echoes_cons, reads_append, reads_cons, echoes_nil, reads_nil,
        ↓echo?_printf_num, ↓echo?_printf_nil, Event.echo?, Event.read?, Option.toList,
        List.nil_append, List.append_nil, List.flatten_append, List.flatten_nil] using he
    · simp only [echoes_append, echoes_cons, reads_append, reads_cons, echoes_nil, reads_nil,
        ↓echo?_printf_str, Event.echo?, Event.read?, Option.toList, List.nil_append,
        List.append_nil, List.flatten_nil]
  · rcases h : sscanfLu args with _ | bufferSize
    · simp only [storageCliReadChunks, h, wp_bind, wp_call, wp_emit, wp_pure,
        wp_storageCliPrintUsage, furiRecordOpen, storageFileAlloc, storageFileClose,
        storageFileFree, furiRecordClose, ChunkRelay, putchars_append, putchars_cons, reads_append,
        reads_cons, keys_append, keys_cons, putchars_nil, reads_nil, keys_nil, Event.byte?,
        Event.read?, Event.key?, Option.toList, List.nil_append, List.append_nil, keys_map_printf,
        reads_map_printf, putchars_map_printf, List.flatten_nil, List.length_nil, and_self]
    simp only [storageCliReadChunks, h, wp_bind, wp_call, wp_emit, wp_ite, wp_pure, furiRecordOpen,
      storageFileAlloc, storageFileOpen, storageFileSize, printf, malloc, free, storageFileGetError,
      storageCliPrintError, storageFileClose, storageFileFree, furiRecordClose]
    split_ifs
    · refine wp_mono (wp_loop_of_append (storageCliReadChunksBody_relays api _) ⟨rfl, rfl⟩
        (fun _ _ => ChunkRelay.append) fuel _ _) (fun _ _ e he => ?_) fun e he => ?_ <;>
      simpa only [ChunkRelay, putchars_append, putchars_cons, reads_append, reads_cons,
        keys_append, keys_cons, putchars_nil, reads_nil, keys_nil, Event.byte?, Event.read?,
        Event.key?, Option.toList, List.nil_append, List.append_nil, List.flatten_append,
        List.flatten_nil] using he
    all_goals simp only [ChunkRelay, putchars_append, putchars_cons, reads_append, reads_cons,
      keys_append, keys_cons, putchars_nil, reads_nil, keys_nil, Event.byte?, Event.read?,
      Event.key?, Option.toList, List.nil_append, List.append_nil, List.flatten_nil,
      List.length_nil, and_self]

end Relay

end StorageCli
