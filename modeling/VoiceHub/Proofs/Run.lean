/-!
# What is collected along a run

A run takes one input after the other, from state to state.  `collect` lists what
the single steps contribute.  A law that ties the contributions of every step to
a view of the state holds of the whole run.
-/

namespace VoiceHub

variable {σ ι α : Type} {next : σ → ι → σ}

/-- The contributions of the steps, in order. -/
def collect (next : σ → ι → σ) (part : σ → ι → List α) : σ → List ι → List α
  | _, [] => []
  | s, input :: inputs => part s input ++ collect next part (next s input) inputs

theorem collect_append (part : σ → ι → List α) (s : σ) (inputs later : List ι) :
    collect next part s (inputs ++ later) =
      collect next part s inputs ++ collect next part (inputs.foldl next s) later := by
  induction inputs generalizing s with
  | nil => rfl
  | cons input inputs ih => rw [List.cons_append, collect, ih, collect, List.append_assoc]; rfl

theorem filter_collect (part : σ → ι → List α)
    (p : α → Bool) (s : σ) (inputs : List ι) :
    (collect next part s inputs).filter p =
      collect next (fun s input => (part s input).filter p) s inputs := by
  induction inputs generalizing s with
  | nil => rfl
  | cons input inputs ih => rw [collect, List.filter_append, ih, collect]

section Queue

/-! A queue takes what is put at its end and gives from its front. -/

variable {queue : σ → List α} {put got : σ → ι → List α}

/-- Nothing is lost, doubled or reordered. -/
theorem queue_foldl
    (hstep : ∀ s input,
      queue s ++ put s input = got s input ++ queue (next s input))
    (s : σ) (inputs : List ι) :
    queue s ++ collect next put s inputs =
      collect next got s inputs ++ queue (inputs.foldl next s) := by
  induction inputs generalizing s with
  | nil => simp [collect]
  | cons input inputs ih =>
      calc queue s ++ collect next put s (input :: inputs)
          = (queue s ++ put s input) ++
              collect next put (next s input) inputs := by
            rw [collect, List.append_assoc]
        _ = got s input ++ (queue (next s input) ++
              collect next put (next s input) inputs) := by
            rw [hstep s input, List.append_assoc]
        _ = collect next got s (input :: inputs) ++
              queue ((input :: inputs).foldl next s) := by
            rw [ih, collect, List.append_assoc, List.foldl_cons]

end Queue

end VoiceHub
