import StorageCli.Logic.Wp

/-! The resource ledger of a run: per kind of resource, how many it acquired minus how many it
released. A run is balanced when every count is zero, and quiet when it neither formats the
card nor resets the device. -/

namespace StorageCli

inductive Resource
  | record | file | dirWalk | string | block | handle
  deriving DecidableEq, Repr

def Event.delta : Event → Resource → Int
  | .furiRecordOpen _, .record => 1
  | .furiRecordClose _, .record => -1
  | .furiStringAlloc, .string => 1
  | .furiStringFree, .string => -1
  | .malloc _, .block => 1
  | .free, .block => -1
  | .storageFileAlloc, .file => 1
  | .storageFileFree _, .file => -1
  | .storageFileFree wasOpen, .handle => if wasOpen then -1 else 0
  | .storageFileOpen _ _ _ ok, .handle => if ok then 1 else 0
  | .storageFileClose wasOpen, .handle => if wasOpen then -1 else 0
  | .storageDirOpen _ ok, .handle => if ok then 1 else 0
  | .storageDirClose wasOpen, .handle => if wasOpen then -1 else 0
  | .dirWalkAlloc, .dirWalk => 1
  | .dirWalkFree _, .dirWalk => -1
  | .dirWalkFree wasOpen, .handle => if wasOpen then -1 else 0
  | .dirWalkOpen _ ok, .handle => if ok then 1 else 0
  | _, _ => 0

def ledger (r : Resource) : List Event → Int
  | [] => 0
  | e :: evs => e.delta r + ledger r evs

@[simp] theorem ledger_nil (r : Resource) : ledger r [] = 0 := rfl

@[simp] theorem ledger_cons (r : Resource) (e : Event) (evs : List Event) :
    ledger r (e :: evs) = e.delta r + ledger r evs := rfl

@[simp] theorem ledger_append (r : Resource) (evs evs' : List Event) :
    ledger r (evs ++ evs') = ledger r evs + ledger r evs' := by
  induction evs with
  | nil => simp
  | cons e evs ih => simp [ih, Int.add_assoc]

@[simp] theorem ledger_map_printf {γ : Type} (r : Resource) (format : γ → String)
    (args : γ → List PrintfArg) (l : List γ) :
    ledger r (l.map fun c => .printf (format c) (args c)) = 0 := by
  induction l with
  | nil => rfl
  | cons c l ih => rw [List.map_cons, ledger_cons, ih]; cases r <;> rfl

@[simp] theorem ledger_map_putchar (r : Resource) (l : List UInt8) :
    ledger r (l.map .putchar) = 0 := by
  induction l with
  | nil => rfl
  | cons c l ih => rw [List.map_cons, ledger_cons, ih]; cases r <;> rfl

def Balanced (evs : List Event) : Prop := ∀ r, ledger r evs = 0

theorem balanced_iff (evs : List Event) :
    Balanced evs ↔ ledger .record evs = 0 ∧ ledger .file evs = 0 ∧ ledger .dirWalk evs = 0 ∧
      ledger .string evs = 0 ∧ ledger .block evs = 0 ∧ ledger .handle evs = 0 := by
  refine ⟨fun h => ⟨h _, h _, h _, h _, h _, h _⟩, fun h r => ?_⟩
  cases r <;> simp [h]

theorem Balanced.append {evs evs' : List Event} (h : Balanced evs) (h' : Balanced evs') :
    Balanced (evs ++ evs') := fun r => by simp [h r, h' r]

/-- The calls that cannot be taken back: formatting the card, and the factory reset with the
reboot that carries it out. -/
def Event.isDestructive : Event → Bool
  | .storageSdFormat _ | .furiHalRtcSetFlag _ | .powerReboot _ => true
  | _ => false

attribute [simp] Event.delta Event.isDestructive

def Quiet (evs : List Event) : Prop := ∀ e ∈ evs, e.isDestructive = false

@[simp] theorem quiet_nil : Quiet [] := by simp [Quiet]

@[simp] theorem quiet_cons (e : Event) (evs : List Event) :
    Quiet (e :: evs) ↔ e.isDestructive = false ∧ Quiet evs := by simp [Quiet]

@[simp] theorem quiet_append (evs evs' : List Event) :
    Quiet (evs ++ evs') ↔ Quiet evs ∧ Quiet evs' := by
  simp only [Quiet, List.mem_append]
  exact ⟨fun h => ⟨fun e he => h e (.inl he), fun e he => h e (.inr he)⟩,
    fun h e he => he.elim (h.1 e) (h.2 e)⟩

@[simp] theorem quiet_map_printf {γ : Type} (format : γ → String) (args : γ → List PrintfArg)
    (l : List γ) : Quiet (l.map fun c => .printf (format c) (args c)) := by
  simp [Quiet, Event.isDestructive]

@[simp] theorem quiet_map_putchar (l : List UInt8) : Quiet (l.map .putchar) := by
  simp [Quiet, Event.isDestructive]

variable {σ α β : Type}

/-- The discipline of every handler but `format` and the factory reset: whatever the
collaborators answer, it never does anything destructive, and a run that returns leaves the
ledger as it found it. -/
def Tame (x : Cli σ α) : Prop :=
  ∀ w, wp x (fun _ _ evs => Balanced evs ∧ Quiet evs) Quiet w

theorem Tame.wp {x : Cli σ α} (hx : Tame x) {Q : α → World σ → List Event → Prop}
    {S : List Event → Prop} (w : World σ)
    (hQ : ∀ a w' evs, (∀ r, ledger r evs = 0) → Quiet evs → Q a w' evs)
    (hS : ∀ evs, Quiet evs → S evs) : StorageCli.wp x Q S w :=
  wp_mono (hx w) (fun a w' evs h => hQ a w' evs h.1 h.2) hS

theorem Tame.bind {x : Cli σ α} {f : α → Cli σ β} (hx : Tame x) (hf : ∀ a, Tame (f a)) :
    Tame (x >>= f) := fun w => by
  rw [wp_bind]
  refine hx.wp w (fun a w' evs hb hq => (hf a).wp w' (fun _ _ evs' hb' hq' => ?_) ?_) ?_
  · exact ⟨Balanced.append hb hb', (quiet_append _ _).2 ⟨hq, hq'⟩⟩
  · exact fun evs' hq' => (quiet_append _ _).2 ⟨hq, hq'⟩
  · exact fun evs hq => hq

theorem Tame.loop {body : β → Cli σ (Step β)} (h : ∀ b, Tame (body b)) (fuel : Nat) (b : β) :
    Tame (loop body fuel b) := fun w => by
  have key := wp_loop body (fun _ _ evs => Balanced evs ∧ Quiet evs)
    (fun _ _ evs => Balanced evs ∧ Quiet evs) Quiet
    (fun b w evs hi => (h b).wp w (fun s w' e hb hq => ?_) fun e hq => ?_)
    (fun _ _ _ hi => hi.2) fuel b w [] ⟨fun _ => rfl, quiet_nil⟩
  · simpa using key
  · cases s <;> exact ⟨hi.1.append hb, (quiet_append _ _).2 ⟨hi.2, hq⟩⟩
  · exact (quiet_append _ _).2 ⟨hi.2, hq⟩

end StorageCli
