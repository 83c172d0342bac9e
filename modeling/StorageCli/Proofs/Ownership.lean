import StorageCli.Proofs.Confirmation

/-! Ownership across a console session: every command run that returns has released all it
acquired, so no handle stays open between two commands. -/

namespace StorageCli

variable {σ α β : Type} (api : Api σ)

/-- Every run of `x` that returns has released what it acquired. -/
def ReleasesAll (x : Cli σ α) : Prop :=
  ∀ w, wp x (fun _ _ evs => Balanced evs) (fun _ => True) w

theorem Tame.releasesAll {x : Cli σ α} (h : Tame x) : ReleasesAll x := fun w =>
  h.wp w (fun _ _ _ hb _ => hb) fun _ _ => trivial

theorem ReleasesAll.bind {x : Cli σ α} {f : α → Cli σ β} (hx : ReleasesAll x)
    (hf : ∀ a, ReleasesAll (f a)) : ReleasesAll (x >>= f) := fun w => by
  rw [wp_bind]
  exact wp_mono (hx w) (fun a w' _ hb => wp_mono (hf a w') (fun _ _ _ hb' => hb.append hb')
    fun _ _ => trivial) fun _ _ => trivial

theorem bracketStrings_releasesAll {body : Cli σ Unit} (h : ReleasesAll body) :
    ReleasesAll (bracketStrings body) := fun w => by
  rw [wp_bracketStrings]
  refine wp_mono (h w) (fun _ _ evs hb r => ?_) fun _ _ => trivial
  cases r <;> simp [hb _]

theorem storageCliCommand_releasesAll (fuel : Nat) (cmd path args : String) :
    ReleasesAll (storageCliCommand api fuel cmd path args) := by
  by_cases hf : cmd = "format"
  · subst hf
    rw [storageCliCommand_format]
    exact fun w => wp_mono (storageCliFormat_gate api path w) (fun _ _ _ h => h.1) fun _ _ => trivial
  · exact (storageCliCommand_tame api fuel cmd path args hf).releasesAll

theorem storageCli_releasesAll (fuel : Nat) (args : String) :
    ReleasesAll (storageCli api fuel args) := by
  rw [storageCli_eq]
  refine bracketStrings_releasesAll ?_
  rcases storageCliTokens args with _ | ⟨cmd, path, rest⟩
  · exact storageCliPrintUsage_tame.releasesAll
  · exact storageCliCommand_releasesAll api fuel cmd path rest

theorem runCommand_releasesAll (fuel : Nat) (c : Command) : ReleasesAll (runCommand api fuel c) := by
  cases c with
  | storage args => exact storageCli_releasesAll api fuel args
  | factoryReset args =>
    exact fun w => wp_mono (storageCliFactoryReset_gate args w) (fun _ _ _ h => h.1)
      fun _ _ => trivial

theorem session_releasesAll (fuel : Nat) (cs : List Command) : ReleasesAll (session api fuel cs) := by
  induction cs with
  | nil => exact fun w => by simp [session, Balanced]
  | cons c cs ih => exact (runCommand_releasesAll api fuel c).bind fun _ => ih

theorem chunk_usage_opens_nothing (fuel : Nat) (path args : String) (w : World σ)
    (h : sscanfLu args = none) (p : String) (access : FsAccessMode) (mode : FsOpenMode)
    (ok : Bool) :
    Event.storageFileOpen p access mode ok ∉ (storageCliReadChunks api fuel path args w).events ∧
    Event.storageFileOpen p access mode ok ∉ (storageCliWriteChunk api path args w).events := by
  rw [storageCliReadChunks_usage api fuel path args w h, storageCliWriteChunk_usage api path args w h]
  simp [Outcome.events, readChunksUsageRun, writeChunkUsageRun]

theorem session_releases_every_handle (fuel : Nat) :
    (∀ c, ReleasesAll (runCommand api fuel c)) ∧ (∀ cs, ReleasesAll (session api fuel cs)) ∧
    (∀ path args (w : World σ), sscanfLu args = none → ∀ p access mode ok,
      Event.storageFileOpen p access mode ok ∉ (storageCliReadChunks api fuel path args w).events ∧
      Event.storageFileOpen p access mode ok ∉ (storageCliWriteChunk api path args w).events) :=
  ⟨runCommand_releasesAll api fuel, session_releasesAll api fuel,
    fun path args w h => chunk_usage_opens_nothing api fuel path args w h⟩

end StorageCli
