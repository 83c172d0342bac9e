import Mathlib.Data.List.Nodup
import StorageCli.Model.DispatchDefs

/-! The dispatcher as a table: `storage_cli` runs the handler of the first of its sixteen verbs
that equals the token, and the verbs are distinct, so that handler is the only one. -/

namespace StorageCli

variable {σ : Type} (api : Api σ)

/-- The verbs of `storage_cli` in the order the source compares them, each with its handler. -/
def storageCliTable (fuel : Nat) : List (String × (String → String → Cli σ Unit)) :=
  [("info", fun path _ => storageCliInfo api path),
   ("format", fun path _ => storageCliFormat api path),
   ("list", fun path _ => storageCliList api fuel path),
   ("tree", fun path _ => storageCliTree api fuel path),
   ("read", fun path _ => storageCliRead api fuel path),
   ("read_chunks", storageCliReadChunks api fuel),
   ("write", fun path _ => storageCliWrite api fuel path),
   ("write_chunk", storageCliWriteChunk api),
   ("copy", storageCliCopy api),
   ("remove", fun path _ => storageCliRemove api path),
   ("rename", storageCliRename api),
   ("migrate", storageCliMigrate api),
   ("mkdir", fun path _ => storageCliMkdir api path),
   ("md5", fun path _ => storageCliMd5 api fuel path),
   ("stat", fun path _ => storageCliStat api path),
   ("timestamp", fun path _ => storageCliTimestamp api path)]

def storageCliVerbs : List String :=
  ["info", "format", "list", "tree", "read", "read_chunks", "write", "write_chunk", "copy",
   "remove", "rename", "migrate", "mkdir", "md5", "stat", "timestamp"]

theorem storageCliTable_verbs (fuel : Nat) :
    (storageCliTable api fuel).map Prod.fst = storageCliVerbs := rfl

theorem storageCliVerbs_nodup : storageCliVerbs.Nodup := by decide

theorem storageCliCommand_eq_lookup (fuel : Nat) (cmd path args : String) :
    storageCliCommand api fuel cmd path args =
      match (storageCliTable api fuel).lookup cmd with
      | some handler => handler path args
      | none => storageCliPrintUsage := by
  by_cases h : cmd ∈ storageCliVerbs
  · simp only [storageCliVerbs, List.mem_cons, List.mem_nil_iff, or_false] at h
    rcases h with rfl | rfl | rfl | rfl | rfl | rfl | rfl | rfl | rfl | rfl | rfl | rfl | rfl |
      rfl | rfl | rfl <;> rfl
  · simp only [storageCliVerbs, List.mem_cons, List.mem_nil_iff, or_false, not_or] at h
    obtain ⟨h1, h2, h3, h4, h5, h6, h7, h8, h9, h10, h11, h12, h13, h14, h15, h16⟩ := h
    have hnone : (storageCliTable api fuel).lookup cmd = none :=
      List.lookup_eq_none_iff.2 (by
        simp only [storageCliTable, List.mem_cons, List.mem_nil_iff, or_false, forall_eq_or_imp,
          bne_iff_ne, ne_eq, forall_eq, not_false_eq_true, *, and_self])
    simp only [storageCliCommand, hnone, *, if_false]

theorem lookup_storageCliTable_isSome (fuel : Nat) (cmd : String) :
    ((storageCliTable api fuel).lookup cmd).isSome ↔ cmd ∈ storageCliVerbs := by
  rw [← storageCliTable_verbs api fuel, List.lookup_isSome_iff, List.mem_map]
  exact exists_congr fun p => and_congr_right fun _ => by rw [beq_iff_eq, eq_comm]

theorem lookup_eq_of_mem {β : Type} {l : List (String × β)} (hl : (l.map Prod.fst).Nodup)
    {k : String} {b b' : β} (h : l.lookup k = some b) (h' : (k, b') ∈ l) : b' = b := by
  obtain ⟨l₁, l₂, rfl, -⟩ := List.lookup_eq_some_iff.1 h
  have hmem : (k, b) ∈ l₁ ++ (k, b) :: l₂ := List.mem_append_right _ (List.mem_cons_self _ _)
  exact (Prod.ext_iff.1 (List.inj_on_of_nodup_map hl h' hmem rfl)).2

def storageCliTokens (args : String) : Option (String × String × String) :=
  match argsReadStringAndTrim args with
  | none => none
  | some (cmd, rest) =>
    match argsReadProbablyQuotedStringAndTrim rest with
    | none => none
    | some (path, rest) => some (cmd, path, rest)

def bracketStrings (body : Cli σ Unit) : Cli σ Unit := do
  furiStringAlloc
  furiStringAlloc
  body
  furiStringFree
  furiStringFree

@[simp] theorem wp_bracketStrings {Q : Unit → World σ → List Event → Prop}
    {S : List Event → Prop} (body : Cli σ Unit) (w : World σ) :
    wp (bracketStrings body) Q S w ↔
      wp body (fun a w' evs => Q a w'
          ([.furiStringAlloc, .furiStringAlloc] ++ evs ++ [.furiStringFree, .furiStringFree]))
        (fun evs => S ([.furiStringAlloc, .furiStringAlloc] ++ evs)) w := by
  simp [bracketStrings]

theorem storageCli_eq (fuel : Nat) (args : String) :
    storageCli api fuel args = bracketStrings
      (match storageCliTokens args with
       | none => storageCliPrintUsage
       | some (cmd, path, rest) => storageCliCommand api fuel cmd path rest) := by
  unfold storageCli bracketStrings storageCliTokens
  rcases argsReadStringAndTrim args with _ | ⟨cmd, rest⟩
  · rfl
  · dsimp only
    rcases argsReadProbablyQuotedStringAndTrim rest with _ | ⟨path, rest'⟩ <;> rfl

def storageCliUsageRun : List Event :=
  [.furiStringAlloc, .furiStringAlloc] ++ storageCliUsage.map (fun line => .printf line []) ++
    [.furiStringFree, .furiStringFree]

theorem bracketStrings_usage (w : World σ) :
    bracketStrings storageCliPrintUsage w = .ret () w storageCliUsageRun := by
  simp [bracketStrings, bind_apply, storageCliPrintUsage_apply, emit, Outcome.prepend,
    storageCliUsageRun]

theorem storageCli_usage (fuel : Nat) (args : String) (w : World σ)
    (h : ∀ cmd path rest, storageCliTokens args = some (cmd, path, rest) → cmd ∉ storageCliVerbs) :
    storageCli api fuel args w = .ret () w storageCliUsageRun := by
  rw [storageCli_eq]
  rcases ht : storageCliTokens args with _ | ⟨cmd, path, rest⟩
  · exact bracketStrings_usage w
  · have hnone : (storageCliTable api fuel).lookup cmd = none := by
      rw [← Option.not_isSome_iff_eq_none, lookup_storageCliTable_isSome]
      exact h cmd path rest ht
    simp only [storageCliCommand_eq_lookup, hnone]
    exact bracketStrings_usage w

theorem storageCli_handler (fuel : Nat) (args cmd path rest : String)
    (ht : storageCliTokens args = some (cmd, path, rest)) (hv : cmd ∈ storageCliVerbs) :
    ∃ handler, (storageCliTable api fuel).lookup cmd = some handler ∧
      storageCli api fuel args = bracketStrings (handler path rest) := by
  obtain ⟨handler, hh⟩ := Option.isSome_iff_exists.1 ((lookup_storageCliTable_isSome api fuel cmd).2 hv)
  exact ⟨handler, hh, by rw [storageCli_eq, ht]; simp only [storageCliCommand_eq_lookup, hh]⟩

def pathPairUsageRun : List Event :=
  [.furiRecordOpen recordStorage, .furiStringAlloc] ++
    storageCliUsage.map (fun line => .printf line []) ++
    [.furiStringFree, .furiRecordClose recordStorage]

theorem storageCliPathPair_usage (op : PairOp) (oldPath args : String) (w : World σ)
    (h : argsReadProbablyQuotedStringAndTrim args = none) :
    storageCliPathPair api op oldPath args w = .ret () w pathPairUsageRun := by
  simp [storageCliPathPair, h, bind_apply, storageCliPrintUsage_apply, emit, Outcome.prepend,
    pathPairUsageRun]

def readChunksUsageRun : List Event :=
  [.furiRecordOpen recordStorage, .storageFileAlloc] ++
    storageCliUsage.map (fun line => .printf line []) ++
    [.storageFileClose false, .storageFileFree false, .furiRecordClose recordStorage]

theorem storageCliReadChunks_usage (fuel : Nat) (path args : String) (w : World σ)
    (h : sscanfLu args = none) :
    storageCliReadChunks api fuel path args w =
      .ret () { w with storage := api.storageFileClose w.storage } readChunksUsageRun := by
  simp [storageCliReadChunks, h, bind_apply, storageCliPrintUsage_apply, emit, call,
    Outcome.prepend, readChunksUsageRun]

def writeChunkUsageRun : List Event :=
  [.furiRecordOpen recordStorage, .storageFileAlloc] ++
    storageCliUsage.map (fun line => .printf line []) ++
    [.storageFileFree false, .furiRecordClose recordStorage]

theorem storageCliWriteChunk_usage (path args : String) (w : World σ)
    (h : sscanfLu args = none) :
    storageCliWriteChunk api path args w = .ret () w writeChunkUsageRun := by
  simp [storageCliWriteChunk, h, bind_apply, storageCliPrintUsage_apply, emit, call,
    Outcome.prepend, writeChunkUsageRun]

theorem storageCli_dispatches_one_handler (fuel : Nat) (args : String) :
    (∀ w : World σ, (∀ cmd path rest, storageCliTokens args = some (cmd, path, rest) →
        cmd ∉ storageCliVerbs) →
      storageCli api fuel args w = .ret () w storageCliUsageRun) ∧
    (∀ cmd path rest, storageCliTokens args = some (cmd, path, rest) → cmd ∈ storageCliVerbs →
      ∃ handler, (storageCliTable api fuel).lookup cmd = some handler ∧
        (∀ handler', (cmd, handler') ∈ storageCliTable api fuel → handler' = handler) ∧
        storageCli api fuel args = bracketStrings (handler path rest)) ∧
    (∀ handler ∈ [storageCliCopy api, storageCliRename api, storageCliMigrate api],
      ∀ oldPath rest (w : World σ), argsReadProbablyQuotedStringAndTrim rest = none →
        handler oldPath rest w = .ret () w pathPairUsageRun) ∧
    (∀ path rest (w : World σ), sscanfLu rest = none →
      storageCliReadChunks api fuel path rest w =
        .ret () { w with storage := api.storageFileClose w.storage } readChunksUsageRun) ∧
    (∀ path rest (w : World σ), sscanfLu rest = none →
      storageCliWriteChunk api path rest w = .ret () w writeChunkUsageRun) := by
  refine ⟨storageCli_usage api fuel args, fun cmd path rest ht hv => ?_, ?_,
    storageCliReadChunks_usage api fuel, storageCliWriteChunk_usage api⟩
  · obtain ⟨handler, hh, heq⟩ := storageCli_handler api fuel args cmd path rest ht hv
    have hnodup : ((storageCliTable api fuel).map Prod.fst).Nodup := by
      rw [storageCliTable_verbs]
      exact storageCliVerbs_nodup
    exact ⟨handler, hh, fun handler' hmem => lookup_eq_of_mem hnodup hh hmem, heq⟩
  · simp only [List.mem_cons, List.mem_nil_iff, or_false]
    rintro _ (rfl | rfl | rfl) <;> exact storageCliPathPair_usage api _

end StorageCli
