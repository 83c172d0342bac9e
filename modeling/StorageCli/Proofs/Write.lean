import StorageCli.Model.TransferDefs
import StorageCli.Model.RamDiskDefs
import StorageCli.Logic.Trace

/-! The loop of `storage_cli_write`: its invariant `WriteInv` while every write is complete,
how it ends (or, after a multiple of 512 keys, does not end) on an end-of-text, and its echo. -/

namespace StorageCli

variable {σ : Type} (api : Api σ)

def FullWrites : Prop := ∀ data s, (api.storageFileWrite data s).1 = data.length

theorem ramDisk_fullWrites : FullWrites ramDisk := fun _ _ => rfl

theorem take_succ_set {α : Type} {l : List α} {i : Nat} (a : α) (h : i < l.length) :
    (l.set i a).take (i + 1) = l.take i ++ [a] := by
  rw [List.take_succ, List.set_take, List.set_eq_of_length_le (by simp [Nat.min_eq_left h.le]),
    List.getElem?_set_self h]
  rfl

theorem eq_of_append_cons_eq {α : Type} {x : α} {l r s : List α} (hx : x ∉ s)
    (h : l ++ x :: r = s ++ [x]) : l = s ∧ r = [] := by
  induction l generalizing s with
  | nil => cases s <;> simp_all
  | cons a l ih =>
    cases s with
    | nil => simp at h
    | cons b s =>
      simp only [List.cons_append, List.cons.injEq, List.mem_cons, not_or] at h hx
      obtain ⟨rfl, h⟩ := h
      simpa using ih hx.2 h

/-- The state of the loop once it has stored the keys `stored` and handed the blocks
`written` to the file: `read_index` counts the stored keys modulo `2^32`, the written blocks
are full, and the buffer holds the keys stored since the last of them. -/
structure WriteInv (stored : List UInt8) (written : List (List UInt8)) (buffer : List UInt8)
    (readIndex : BitVec 32) : Prop where
  length_buffer : buffer.length = 512
  readIndex_toNat : readIndex.toNat = stored.length % 2 ^ 32
  full_blocks : ∀ blk ∈ written, blk.length = 512
  stored_eq : stored = written.flatten ++ buffer.take (stored.length % 512)

def WriteDone (keysRead : List UInt8) (written : List (List UInt8)) : Prop :=
  ∃ stored full tail, keysRead = stored ++ [cliSymbolAsciiETX] ∧ written = full ++ [tail] ∧
    written.flatten = stored ∧ (∀ blk ∈ full, blk.length = 512) ∧ 0 < tail.length ∧
    tail.length < 512

theorem writeInv_init : WriteInv [] [] (List.replicate 512 0) 0 where
  length_buffer := List.length_replicate _ _
  readIndex_toNat := rfl
  full_blocks := by simp
  stored_eq := rfl

section WriteInv
variable {stored : List UInt8} {written : List (List UInt8)} {buffer : List UInt8}
  {readIndex : BitVec 32}

theorem length_flatten_of_full {blocks : List (List UInt8)}
    (h : ∀ blk ∈ blocks, blk.length = 512) : blocks.flatten.length = 512 * blocks.length := by
  induction blocks with
  | nil => rfl
  | cons blk blocks ih =>
    simp only [List.forall_mem_cons] at h
    simp only [List.flatten, List.length_append, h.1, ih h.2, List.length_cons]
    omega

theorem WriteInv.length_flatten (h : WriteInv stored written buffer readIndex) :
    written.flatten.length = 512 * (stored.length / 512) := by
  have hlen := congrArg List.length h.stored_eq
  simp only [List.length_append, List.length_take, h.length_buffer,
    length_flatten_of_full h.full_blocks] at hlen ⊢
  omega

theorem WriteInv.split (h : WriteInv stored written buffer readIndex) :
    written.flatten = stored.take (512 * (stored.length / 512)) ∧
      buffer.take (stored.length % 512) = stored.drop (512 * (stored.length / 512)) := by
  have hs := h.stored_eq
  rw [← h.length_flatten]
  constructor
  · conv_rhs => rw [hs]
    exact (List.take_left' rfl).symm
  · conv_rhs => rw [hs]
    exact (List.drop_left' rfl).symm

theorem WriteInv.readIndex_mod (h : WriteInv stored written buffer readIndex) :
    readIndex.toNat % 512 = stored.length % 512 := by
  rw [h.readIndex_toNat]; omega

theorem WriteInv.readIndex_succ (h : WriteInv stored written buffer readIndex) :
    (readIndex + 1).toNat = (stored.length + 1) % 2 ^ 32 := by
  rw [BitVec.toNat_add, h.readIndex_toNat]
  simp

theorem WriteInv.take_set (h : WriteInv stored written buffer readIndex) (c : UInt8) :
    (buffer.set (stored.length % 512) c).take (stored.length % 512 + 1) =
      buffer.take (stored.length % 512) ++ [c] :=
  take_succ_set c (by rw [h.length_buffer]; omega)

theorem WriteInv.store (h : WriteInv stored written buffer readIndex) (c : UInt8)
    (hn : (stored.length + 1) % 512 ≠ 0) :
    WriteInv (stored ++ [c]) written (buffer.set (stored.length % 512) c) (readIndex + 1) where
  length_buffer := by simp [h.length_buffer]
  readIndex_toNat := by rw [h.readIndex_succ]; simp
  full_blocks := h.full_blocks
  stored_eq := by
    have hlen : (stored ++ [c]).length % 512 = stored.length % 512 + 1 := by simp; omega
    rw [hlen, h.take_set, ← List.append_assoc, ← h.stored_eq]

theorem WriteInv.storeFlush (h : WriteInv stored written buffer readIndex) (c : UInt8)
    (hn : (stored.length + 1) % 512 = 0) :
    WriteInv (stored ++ [c]) (written ++ [(buffer.set (stored.length % 512) c).take 512])
      (buffer.set (stored.length % 512) c) (readIndex + 1) where
  length_buffer := by simp [h.length_buffer]
  readIndex_toNat := by rw [h.readIndex_succ]; simp
  full_blocks := by
    simp only [List.mem_append, List.mem_singleton]
    rintro blk (hb | rfl)
    · exact h.full_blocks blk hb
    · simp [h.length_buffer]
  stored_eq := by
    have hlen : stored.length % 512 + 1 = 512 := by omega
    have hlen' : (stored ++ [c]).length % 512 = 0 := by simp; omega
    have ht := h.take_set c
    rw [hlen] at ht
    rw [hlen', ht, List.take_zero, List.append_nil, List.flatten_append, List.flatten_singleton,
      ← List.append_assoc, ← h.stored_eq]

theorem WriteInv.done (h : WriteInv stored written buffer readIndex)
    (hpos : stored.length % 512 ≠ 0) :
    WriteDone (stored ++ [cliSymbolAsciiETX]) (written ++ [buffer.take (stored.length % 512)]) := by
  refine ⟨stored, written, _, rfl, rfl, ?_, h.full_blocks, ?_, ?_⟩
  · rw [List.flatten_append, List.flatten_singleton]
    exact h.stored_eq.symm
  all_goals simp [h.length_buffer]; omega

end WriteInv

theorem storageCliWriteBody_spec (hw : FullWrites api) {stored : List UInt8}
    {written : List (List UInt8)} {buffer : List UInt8} {readIndex : BitVec 32}
    (h : WriteInv stored written buffer readIndex) (c : UInt8) (cs : List UInt8) (w : World σ)
    (hc : w.console = c :: cs) :
    wp (storageCliWriteBody api 512 (buffer, readIndex)) (fun s w' e =>
      keys e = [c] ∧ w'.console = cs ∧
      match s with
      | .next b' => ¬(c = cliSymbolAsciiETX ∧ stored.length % 512 ≠ 0) ∧
          WriteInv (stored ++ [c]) (written ++ blocks e) b'.1 b'.2
      | .done _ => c = cliSymbolAsciiETX ∧ stored.length % 512 ≠ 0 ∧
          blocks e = [buffer.take (stored.length % 512)])
      (fun _ => False) w := by
  simp only [storageCliWriteBody, wp_bind, wp_cliGetc, hc]
  refine ⟨List.cons_ne_nil c cs, fun c' cs' h' => ?_⟩
  obtain ⟨rfl, rfl⟩ := List.cons.inj h'
  have hri : (readIndex + 1).toNat % 512 = (stored.length + 1) % 512 := by
    rw [h.readIndex_succ]; omega
  have htake : (buffer.take (stored.length % 512)).length = stored.length % 512 := by
    simp [h.length_buffer]; omega
  have hfull : ((buffer.set (stored.length % 512) c).take 512).length = 512 := by
    simp [h.length_buffer]
  simp only [h.readIndex_mod, hri, wp_ite, wp_bind, wp_call, wp_emit, wp_pure, printf,
    storageCliPrintError, storageFileWrite, storageFileGetError, hw _, htake, hfull, ne_eq,
    not_true_eq_false, ite_false]
  split_ifs with hE hpos hf hf
  all_goals simp
  · exact ⟨hE, by omega⟩
  · exact ⟨fun _ => by omega, h.storeFlush c hf⟩
  · exact ⟨fun _ => by omega, h.store c hf⟩
  · exact ⟨fun h => absurd h hE, h.storeFlush c hf⟩
  · exact ⟨fun h => absurd h hE, h.store c hf⟩

theorem storageCliWriteBody_waits (b : List UInt8 × BitVec 32) (w : World σ)
    (hc : w.console = []) : storageCliWriteBody api 512 b w = .stop .input [] := by
  obtain ⟨buffer, readIndex⟩ := b
  simp [storageCliWriteBody, bind_apply, cliGetc, hc]

theorem writeDone_of_exit {evs e : List Event} {c : UInt8} {buffer : List UInt8}
    {readIndex : BitVec 32} (h : WriteInv (keys evs) (blocks evs) buffer readIndex)
    (hk : keys e = [c]) (hx : c = cliSymbolAsciiETX ∧ (keys evs).length % 512 ≠ 0 ∧
      blocks e = [buffer.take ((keys evs).length % 512)]) :
    WriteDone (keys (evs ++ e)) (blocks (evs ++ e)) := by
  obtain ⟨rfl, hpos, hb⟩ := hx
  simpa [hk, hb] using h.done hpos

theorem storageCliWrite_loop_invariant (hw : FullWrites api) :
    WriteInv [] [] (List.replicate 512 0) 0 ∧
    (∀ stored written buffer readIndex, WriteInv stored written buffer readIndex →
      written.flatten = stored.take (512 * (stored.length / 512)) ∧
      buffer.take (stored.length % 512) = stored.drop (512 * (stored.length / 512))) ∧
    (∀ fuel (w : World σ),
      wp (loop (storageCliWriteBody api 512) fuel (List.replicate 512 0, 0))
        (fun _ _ evs => WriteDone (keys evs) (blocks evs))
        (fun evs => ∃ b : List UInt8 × BitVec 32, WriteInv (keys evs) (blocks evs) b.1 b.2) w) := by
  refine ⟨writeInv_init, fun _ _ _ _ h => h.split, fun fuel w => ?_⟩
  have run := wp_loop (storageCliWriteBody api 512)
    (fun b _ evs => WriteInv (keys evs) (blocks evs) b.1 b.2)
    (fun _ _ evs => WriteDone (keys evs) (blocks evs))
    (fun evs => ∃ b : List UInt8 × BitVec 32, WriteInv (keys evs) (blocks evs) b.1 b.2)
    (fun ⟨buffer, readIndex⟩ w evs h => ?_) (fun b _ _ h => ⟨b, h⟩) fuel
    (List.replicate 512 0, 0) w [] writeInv_init
  · simpa only [List.nil_append] using run
  cases hc : w.console with
  | nil =>
    simp only [wp, storageCliWriteBody_waits api _ w hc, List.append_nil]
    exact ⟨_, h⟩
  | cons c cs =>
    refine wp_mono (storageCliWriteBody_spec api hw h c cs w hc) (fun s _ e hs => ?_)
      fun _ h => h.elim
    obtain ⟨hk, -, hs⟩ := hs
    cases s with
    | next b' => simpa [hk] using hs.2
    | done _ => exact writeDone_of_exit h hk hs

theorem storageCliWrite_loop_invariant_ramDisk :
    FullWrites ramDisk ∧
    (∀ fuel (w : World RamDisk),
      wp (loop (storageCliWriteBody ramDisk 512) fuel (List.replicate 512 0, 0))
        (fun _ _ evs => WriteDone (keys evs) (blocks evs))
        (fun evs => ∃ b : List UInt8 × BitVec 32, WriteInv (keys evs) (blocks evs) b.1 b.2) w) :=
  ⟨ramDisk_fullWrites, (storageCliWrite_loop_invariant ramDisk ramDisk_fullWrites).2.2⟩

theorem storageCliWrite_stores_etx_on_block_boundary (hw : FullWrites api) (s : List UInt8)
    (hs : cliSymbolAsciiETX ∉ s) (hlen : s.length % 512 = 0) (fuel : Nat) (w : World σ)
    (hc : w.console = s ++ [cliSymbolAsciiETX]) :
    wp (loop (storageCliWriteBody api 512) fuel (List.replicate 512 0, 0)) (fun _ _ _ => False)
      (fun evs => keys evs <+: s ++ [cliSymbolAsciiETX] ∧
        ∃ b : List UInt8 × BitVec 32, WriteInv (keys evs) (blocks evs) b.1 b.2) w := by
  have run := wp_loop (storageCliWriteBody api 512)
    (fun b w evs => WriteInv (keys evs) (blocks evs) b.1 b.2 ∧
      keys evs ++ w.console = s ++ [cliSymbolAsciiETX])
    (fun _ _ _ => False)
    (fun evs => keys evs <+: s ++ [cliSymbolAsciiETX] ∧
      ∃ b : List UInt8 × BitVec 32, WriteInv (keys evs) (blocks evs) b.1 b.2)
    (fun ⟨buffer, readIndex⟩ w evs ⟨h, hk⟩ => ?_) (fun b w _ ⟨h, hk⟩ => ⟨⟨w.console, hk⟩, b, h⟩)
    fuel (List.replicate 512 0, 0) w [] ⟨writeInv_init, by simp [hc]⟩
  · simpa only [List.nil_append] using run
  cases hcw : w.console with
  | nil =>
    simp only [wp, storageCliWriteBody_waits api _ w hcw, List.append_nil]
    exact ⟨⟨[], by simpa [hcw] using hk⟩, _, h⟩
  | cons c cs =>
    refine wp_mono (storageCliWriteBody_spec api hw h c cs w hcw)
      (fun st w' e ⟨hke, hw', hst⟩ => ?_) fun _ h => h.elim
    cases st with
    | next b' => exact ⟨by simpa [hke] using hst.2, by simp [hke, hw', ← hk, hcw]⟩
    | done _ =>
      obtain ⟨rfl, hpos, -⟩ := hst
      rw [hcw] at hk
      exact hpos (by rw [(eq_of_append_cons_eq hs hk).1, hlen])

theorem storageCliWrite_etx_first_key_waits :
    FullWrites ramDisk ∧ cliSymbolAsciiETX ∉ ([] : List UInt8) ∧
    wp (loop (storageCliWriteBody ramDisk 512) 2 (List.replicate 512 0, 0)) (fun _ _ _ => False)
      (fun evs => keys evs <+: [cliSymbolAsciiETX] ∧
        ∃ b : List UInt8 × BitVec 32, WriteInv (keys evs) (blocks evs) b.1 b.2)
      ⟨RamDisk.ofFile [], [cliSymbolAsciiETX]⟩ :=
  ⟨ramDisk_fullWrites, by decide,
    storageCliWrite_stores_etx_on_block_boundary ramDisk ramDisk_fullWrites [] (by decide) rfl 2
      ⟨RamDisk.ofFile [], [cliSymbolAsciiETX]⟩ rfl⟩

example : storageCliWrite ramDisk 3 "/ext/a.txt" ⟨RamDisk.ofFile [], [cliSymbolAsciiETX]⟩ =
    .stop .input [.furiRecordOpen recordStorage, .storageFileAlloc, .malloc 512,
      .storageFileOpen "/ext/a.txt" .write .openAppend true,
      .printf "Just write your text data. New line by Ctrl+Enter, exit by Ctrl+C.\r\n" [],
      .cliGetc cliSymbolAsciiETX, .printf "%c" [.chr cliSymbolAsciiETX]] := rfl

theorem storageCliWrite_round_trip (hw : FullWrites api) (s t : List UInt8)
    (hs : cliSymbolAsciiETX ∉ s) (hlen : s.length % 512 ≠ 0) (fuel : Nat) (hfuel : s.length < fuel)
    (w : World σ) (hc : w.console = s ++ cliSymbolAsciiETX :: t) :
    wp (loop (storageCliWriteBody api 512) fuel (List.replicate 512 0, 0))
      (fun _ w' evs => keys evs = s ++ [cliSymbolAsciiETX] ∧ (blocks evs).flatten = s ∧
        w'.console = t) (fun _ => False) w := by
  have run := wp_loop_total (storageCliWriteBody api 512)
    (fun b w evs => WriteInv (keys evs) (blocks evs) b.1 b.2 ∧
      ∃ u, keys evs ++ u = s ∧ w.console = u ++ cliSymbolAsciiETX :: t)
    (fun _ w' evs => keys evs = s ++ [cliSymbolAsciiETX] ∧ (blocks evs).flatten = s ∧
      w'.console = t) (fun _ => False) (fun _ w => w.console.length - (t.length + 1))
    (fun ⟨buffer, readIndex⟩ w evs ⟨h, u, hu, hcw⟩ => ?_) fuel (List.replicate 512 0, 0) w []
    ⟨writeInv_init, s, rfl, hc⟩ (by simpa [hc] using hfuel)
  · simpa only [List.nil_append] using run
  cases u with
  | nil =>
    simp only [List.append_nil, List.nil_append] at hu hcw
    subst hu
    refine wp_mono (storageCliWriteBody_spec api hw h _ t w hcw)
      (fun st w' e ⟨hke, hw', hst⟩ => ?_) fun _ h => h
    cases st with
    | next b' => exact absurd ⟨rfl, hlen⟩ hst.1
    | done _ =>
      obtain ⟨-, -, hb⟩ := hst
      refine ⟨by simp [hke], ?_, hw'⟩
      rw [blocks_append, hb, List.flatten_append, List.flatten_singleton]
      exact h.stored_eq.symm
  | cons c u =>
    have hcs : c ≠ cliSymbolAsciiETX := fun hce => hs (hce ▸ hu ▸ by simp)
    refine wp_mono (storageCliWriteBody_spec api hw h c (u ++ cliSymbolAsciiETX :: t) w
      (by simp [hcw]))
      (fun st w' e ⟨hke, hw', hst⟩ => ?_) fun _ h => h
    cases st with
    | next b' =>
      refine ⟨⟨by simpa [hke] using hst.2, u, by simpa [hke] using hu, hw'⟩, ?_⟩
      simp only [hw', hcw, List.length_append, List.length_cons]
      omega
    | done _ => exact absurd hst.1 hcs

theorem storageCliWrite_round_trip_hi :
    FullWrites ramDisk ∧ cliSymbolAsciiETX ∉ ([104, 105] : List UInt8) ∧
    wp (loop (storageCliWriteBody ramDisk 512) 3 (List.replicate 512 0, 0))
      (fun _ w' evs => keys evs = [104, 105] ++ [cliSymbolAsciiETX] ∧
        (blocks evs).flatten = [104, 105] ∧ w'.console = [])
      (fun _ => False) ⟨RamDisk.ofFile [], [104, 105] ++ cliSymbolAsciiETX :: []⟩ :=
  ⟨ramDisk_fullWrites, by decide,
    storageCliWrite_round_trip ramDisk ramDisk_fullWrites [104, 105] [] (by decide) (by decide) 3
      (by decide) _ rfl⟩

section Echo

theorem getD_set_self {l : List UInt8} {i : Nat} (c : UInt8) (h : i < l.length) :
    (l.set i c).getD i 0 = c := by
  simp only [List.getD_eq_getElem?_getD, List.getElem?_set_self h, Option.getD_some]

theorem storageCliWriteBody_echoes {buffer : List UInt8} (readIndex : BitVec 32)
    (hlen : buffer.length = 512) (w : World σ) :
    wp (storageCliWriteBody api 512 (buffer, readIndex)) (fun s _ e =>
      match s with
      | .next b => b.1.length = 512 ∧ echoes e = keys e
      | .done _ => echoes e = keys e ∨ echoes e ++ [cliSymbolAsciiETX] = keys e)
      (fun e => echoes e = keys e) w := by
  have hlt : readIndex.toNat % 512 < buffer.length := by omega
  simp only [storageCliWriteBody, wp_bind, wp_cliGetc, wp_ite, wp_call, wp_emit, wp_pure, printf,
    storageCliPrintError, storageFileWrite, storageFileGetError, echoes_cons, keys_cons,
    echoes_nil, keys_nil, ↓echo?_printf_str, Event.echo?, Event.key?, getD_set_self _ hlt,
    List.length_set, hlen, Option.toList, List.nil_append, List.singleton_append, and_self,
    true_or, or_true, true_and, implies_true, ite_self]
  intro c _ _
  split_ifs with hE
  exact Or.inr (hE ▸ rfl)

theorem storageCliWrite_loop_echoes (fuel : Nat) (b : List UInt8 × BitVec 32)
    (hb : b.1.length = 512) (w : World σ) :
    wp (loop (storageCliWriteBody api 512) fuel b)
      (fun _ _ evs => echoes evs = keys evs ∨ echoes evs ++ [cliSymbolAsciiETX] = keys evs)
      (fun evs => echoes evs = keys evs) w := by
  have run := wp_loop (storageCliWriteBody api 512)
    (fun b _ evs => b.1.length = 512 ∧ echoes evs = keys evs)
    (fun _ _ evs => echoes evs = keys evs ∨ echoes evs ++ [cliSymbolAsciiETX] = keys evs)
    (fun evs => echoes evs = keys evs)
    (fun ⟨_, readIndex⟩ w evs ⟨hlen, he⟩ =>
      wp_mono (storageCliWriteBody_echoes api readIndex hlen w) (fun s _ e hs => ?_)
        fun e h => by simp only [echoes_append, keys_append, he, h])
    (fun _ _ _ h => h.2) fuel b w [] ⟨hb, rfl⟩
  · simpa only [List.nil_append] using run
  cases s with
  | next b' => exact ⟨hs.1, by simp only [echoes_append, keys_append, he, hs.2]⟩
  | done b' =>
    simp only [echoes_append, keys_append, he, List.append_assoc, List.append_cancel_left_eq]
    exact hs

theorem storageCliWrite_echoes_keys (fuel : Nat) (path : String) (w : World σ) :
    wp (storageCliWrite api fuel path)
      (fun _ _ evs => echoes evs = keys evs ∨ echoes evs ++ [cliSymbolAsciiETX] = keys evs)
      (fun evs => echoes evs = keys evs) w := by
  simp only [storageCliWrite, wp_bind, wp_call, wp_emit, wp_ite, furiRecordOpen, storageFileAlloc,
    storageFileOpen, malloc, printf, storageFileGetError, storageCliPrintError, free,
    storageFileClose, storageFileFree, furiRecordClose]
  split_ifs
  · refine wp_mono (storageCliWrite_loop_echoes api fuel _ (List.length_replicate _ _) _)
      (fun _ _ e h => ?_) fun e h => ?_ <;>
    simpa only [echoes_cons, keys_cons, echoes_append, keys_append, echoes_nil, keys_nil,
      ↓echo?_printf_nil, Event.echo?, Event.key?, Option.toList, List.nil_append,
      List.append_nil] using h
  · simp only [echoes_cons, keys_cons, echoes_append, keys_append, echoes_nil, keys_nil,
      ↓echo?_printf_str, Event.echo?, Event.key?, Option.toList, List.nil_append, true_or]

end Echo

end StorageCli
