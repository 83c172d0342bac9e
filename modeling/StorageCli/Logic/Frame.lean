import StorageCli.Logic.Wp

/-! Properties of every event of every run: `Within P x`, and `Confined P x`, which adds that
a run that returns leaves the console input as it found it. -/

namespace StorageCli

variable {σ α β : Type} {P Q : Event → Prop}

def Every (P : Event → Prop) (evs : List Event) : Prop := ∀ e ∈ evs, P e

section Every
variable {evs evs' : List Event}

@[simp] theorem every_nil : Every P [] := fun _ h => nomatch h

@[simp] theorem every_cons (e : Event) : Every P (e :: evs) ↔ P e ∧ Every P evs :=
  List.forall_mem_cons

@[simp] theorem every_append : Every P (evs ++ evs') ↔ Every P evs ∧ Every P evs' :=
  List.forall_mem_append

theorem Every.mono (h : Every P evs) (hPQ : ∀ e, P e → Q e) : Every Q evs :=
  fun e he => hPQ e (h e he)

@[simp] theorem every_map {γ : Type} (f : γ → Event) (l : List γ) :
    Every P (l.map f) ↔ ∀ c ∈ l, P (f c) :=
  List.forall_mem_map

end Every

def Within (P : Event → Prop) (x : Cli σ α) : Prop :=
  ∀ w, wp x (fun _ _ evs => Every P evs) (Every P) w

/-- Each event of each run of `x` satisfies `P`, and a run that returns leaves the console
as it found it. -/
def Confined (P : Event → Prop) (x : Cli σ α) : Prop :=
  ∀ w, wp x (fun _ w' evs => w'.console = w.console ∧ Every P evs) (Every P) w

theorem Within.wp {x : Cli σ α} (hx : Within P x) {Q' : α → World σ → List Event → Prop}
    {S : List Event → Prop} (w : World σ) (hQ : ∀ a w' evs, Every P evs → Q' a w' evs)
    (hS : ∀ evs, Every P evs → S evs) : StorageCli.wp x Q' S w :=
  wp_mono (hx w) hQ hS

theorem Confined.wp {x : Cli σ α} (hx : Confined P x)
    {Q' : α → World σ → List Event → Prop}
    {S : List Event → Prop} (w : World σ)
    (hQ : ∀ a w' evs, w'.console = w.console → Every P evs → Q' a w' evs)
    (hS : ∀ evs, Every P evs → S evs) : StorageCli.wp x Q' S w :=
  wp_mono (hx w) (fun a w' evs h => hQ a w' evs h.1 h.2) hS

theorem Confined.within {x : Cli σ α} (h : Confined P x) : Within P x := fun w =>
  h.wp w (fun _ _ _ _ h => h) fun _ h => h

theorem Within.mono {x : Cli σ α} (h : Within P x) (hPQ : ∀ e, P e → Q e) : Within Q x :=
  fun w => h.wp w (fun _ _ _ h => h.mono hPQ) fun _ h => h.mono hPQ

theorem Confined.mono {x : Cli σ α} (h : Confined P x) (hPQ : ∀ e, P e → Q e) :
    Confined Q x :=
  fun w => h.wp w (fun _ _ _ hc h => ⟨hc, h.mono hPQ⟩) fun _ h => h.mono hPQ

theorem wp_loop_of_append {body : β → Cli σ (Step β)} {R : List Event → Prop}
    (h : ∀ b w, wp (body b) (fun _ _ e => R e) R w) (hnil : R [])
    (happ : ∀ evs evs', R evs → R evs' → R (evs ++ evs')) (fuel : Nat) (b : β)
    (w : World σ) :
    wp (loop body fuel b) (fun _ _ e => R e) R w := by
  have key := wp_loop body (fun _ _ evs => R evs) (fun _ _ evs => R evs) R
    (fun b w evs hi => wp_mono (h b w) (fun s _ e he => ?_) fun e he => happ _ _ hi he)
    (fun _ _ _ hi => hi) fuel b w [] hnil
  · simpa only [List.nil_append] using key
  · cases s <;> exact happ _ _ hi he

theorem Within.loop {body : β → Cli σ (Step β)} (h : ∀ b, Within P (body b)) (fuel : Nat)
    (b : β) : Within P (loop body fuel b) :=
  wp_loop_of_append (fun b => h b) every_nil (fun _ _ h h' => every_append.2 ⟨h, h'⟩) fuel b

theorem Confined.loop {body : β → Cli σ (Step β)} (h : ∀ b, Confined P (body b)) (fuel : Nat)
    (b : β) : Confined P (loop body fuel b) := fun w => by
  have key := wp_loop body (fun _ w' evs => w'.console = w.console ∧ Every P evs)
    (fun _ w' evs => w'.console = w.console ∧ Every P evs) (Every P)
    (fun b w' evs hi => (h b).wp w' (fun s _ e hc he => ?_)
      fun e he => every_append.2 ⟨hi.2, he⟩)
    (fun _ _ _ hi => hi.2) fuel b w [] ⟨rfl, every_nil⟩
  · simpa only [List.nil_append] using key
  · cases s <;> exact ⟨hc.trans hi.1, every_append.2 ⟨hi.2, he⟩⟩

end StorageCli
