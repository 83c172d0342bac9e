import StorageCli.Model.EventDefs

/-! Weakest preconditions of handler runs: `wp x Q S w` holds when the run of `x` from `w`
satisfies `Q` if it returns and `S` on its events if it stops. -/

namespace StorageCli

variable {σ α β : Type}

def wp (x : Cli σ α) (Q : α → World σ → List Event → Prop) (S : List Event → Prop)
    (w : World σ) : Prop :=
  match x w with
  | .ret a w' evs => Q a w' evs
  | .stop _ evs => S evs

section Rules
variable {Q : α → World σ → List Event → Prop} {S : List Event → Prop} {w : World σ}

@[simp] theorem wp_pure (a : α) : wp (pure a : Cli σ α) Q S w ↔ Q a w [] := Iff.rfl

theorem bind_apply (x : Cli σ α) (f : α → Cli σ β) (w : World σ) :
    (x >>= f) w = match x w with
      | .ret a w' evs => (f a w').prepend evs
      | .stop why evs => .stop why evs := rfl

@[simp] theorem wp_bind {Q : β → World σ → List Event → Prop} (x : Cli σ α)
    (f : α → Cli σ β) :
    wp (x >>= f) Q S w ↔ wp x (fun a w' e =>
      wp (f a) (fun b w'' e' => Q b w'' (e ++ e')) (fun e' => S (e ++ e')) w') S w := by
  simp only [wp, bind_apply]
  cases x w with
  | ret a w' evs => dsimp only; cases f a w' <;> rfl
  | stop => rfl

@[simp] theorem wp_emit {Q : Unit → World σ → List Event → Prop} (e : Event) :
    wp (emit e) Q S w ↔ Q () w [e] := Iff.rfl

@[simp] theorem wp_cliGetc {Q : UInt8 → World σ → List Event → Prop} :
    wp cliGetc Q S w ↔ (w.console = [] → S []) ∧
      ∀ c cs, w.console = c :: cs → Q c { w with console := cs } [.cliGetc c] := by
  rw [wp, cliGetc]
  cases w.console <;> simp

@[simp] theorem wp_cliRead {Q : List UInt8 → World σ → List Event → Prop} (size : Nat) :
    wp (cliRead size) Q S w ↔ Q (w.console.take size) { w with console := w.console.drop size }
      [.cliRead size (w.console.take size)] := Iff.rfl

@[simp] theorem wp_outOfFuel : wp (outOfFuel : Cli σ α) Q S w ↔ S [] := Iff.rfl

@[simp] theorem wp_ite (c : Prop) [Decidable c] (x y : Cli σ α) :
    wp (if c then x else y) Q S w ↔ if c then wp x Q S w else wp y Q S w := by
  split_ifs <;> rfl

theorem forM_emit_apply {γ : Type} (l : List γ) (f : γ → Event) (w : World σ) :
    (l.forM fun c => emit (f c) : Cli σ Unit) w = .ret () w (l.map f) := by
  induction l with
  | nil => rfl
  | cons c l ih => simp [List.forM_cons, bind_apply, ih, emit, Outcome.prepend]

@[simp] theorem wp_forM_emit {γ : Type} {Q : Unit → World σ → List Event → Prop} (l : List γ)
    (f : γ → Event) : wp (l.forM fun c => emit (f c) : Cli σ Unit) Q S w ↔ Q () w (l.map f) := by
  rw [wp, forM_emit_apply]

theorem wp_mono {x : Cli σ α} {Q' : α → World σ → List Event → Prop} {S' : List Event → Prop}
    (h : wp x Q S w) (hQ : ∀ a w' e, Q a w' e → Q' a w' e) (hS : ∀ e, S e → S' e) :
    wp x Q' S' w := by
  unfold wp at *
  split at h <;> simp_all

theorem wp_of_forall {x : Cli σ α} (hQ : ∀ a w' e, Q a w' e) (hS : ∀ e, S e) : wp x Q S w := by
  unfold wp
  split
  · exact hQ _ _ _
  · exact hS _

theorem events_of_wp {x : Cli σ α} {P : List Event → Prop} (h : wp x (fun _ _ evs => P evs) P w) :
    P (x w).events := by
  unfold wp at h
  cases hx : x w <;> simp_all [Outcome.events]

theorem events_prefix_of_wp {x : Cli σ α} {pre : List Event}
    (h : wp x (fun _ _ e => ∃ r, e = pre ++ r) (fun e => ∃ r, e = pre ++ r) w) :
    ∃ r, (x w).events = pre ++ r :=
  events_of_wp h

end Rules

/-! ## Loops -/

section Loops
variable (body : β → Cli σ (Step β)) (Inv : β → World σ → List Event → Prop)
  (Q : β → World σ → List Event → Prop) (S : List Event → Prop)

theorem loop_succ (fuel : Nat) (b : β) :
    loop body (fuel + 1) b = body b >>= fun
      | .next b' => loop body fuel b'
      | .done b' => pure b' := rfl

/-- The loop rule: an invariant over the loop state, the world and the events emitted so far,
which each pass of the body either re-establishes or turns into the postcondition, and which
implies `S` wherever a run may stop. -/
theorem wp_loop
    (hstep : ∀ b w evs, Inv b w evs → wp (body b) (fun s w' e =>
      match s with
      | .next b' => Inv b' w' (evs ++ e)
      | .done b' => Q b' w' (evs ++ e)) (fun e => S (evs ++ e)) w)
    (hstop : ∀ b w evs, Inv b w evs → S evs) :
    ∀ fuel b w evs, Inv b w evs →
      wp (loop body fuel b) (fun b' w' e => Q b' w' (evs ++ e)) (fun e => S (evs ++ e)) w := by
  intro fuel
  induction fuel with
  | zero => intro b w evs h; simpa [loop] using hstop b w evs h
  | succ fuel ih =>
    intro b w evs h
    rw [loop_succ, wp_bind]
    refine wp_mono (hstep b w evs h) (fun s w' e hs => ?_) (fun _ h => h)
    cases s with
    | next b' => simpa using ih b' w' (evs ++ e) hs
    | done b' => simpa using hs

theorem wp_loop_total (μ : β → World σ → Nat)
    (hstep : ∀ b w evs, Inv b w evs → wp (body b) (fun s w' e =>
      match s with
      | .next b' => Inv b' w' (evs ++ e) ∧ μ b' w' < μ b w
      | .done b' => Q b' w' (evs ++ e)) (fun e => S (evs ++ e)) w) :
    ∀ fuel b w evs, Inv b w evs → μ b w < fuel →
      wp (loop body fuel b) (fun b' w' e => Q b' w' (evs ++ e)) (fun e => S (evs ++ e)) w := by
  intro fuel
  induction fuel with
  | zero => intro b w evs _ hμ; omega
  | succ fuel ih =>
    intro b w evs h hμ
    rw [loop_succ, wp_bind]
    refine wp_mono (hstep b w evs h) (fun s w' e hs => ?_) (fun _ h => h)
    cases s with
    | next b' => simpa using ih b' w' (evs ++ e) hs.1 (by omega)
    | done b' => simpa using hs

end Loops

end StorageCli
