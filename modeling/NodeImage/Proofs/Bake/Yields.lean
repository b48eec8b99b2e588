import NodeImage.Bake.Baker

/-!
# What a resolution yields

A resolution (`BakeM`) only ever appends events to the log it is given, and what it returns
does not depend on that log. `BakeM.Yields x r es` says exactly this of one computation: run
from any log, `x` returns `r` and leaves the log extended by `es`.

The rules below give `Yields` for each way a resolution is built (`pure`, `throw`, `emit`,
`lift`, `bind`, `foldlM` and `reportingFailure`), so that the lemmas about the baker's
operations are assembled from them and never unfold the monad. The last section does this
for `overrideImage`: it returns `overrideVersion` of its image, recording one
`versionOverridden` event exactly when the overrides name the distribution.
-/

namespace NodeImage

namespace BakeM

/-- Run from any log, `x` returns `r` and appends the events `es` to the log. -/
def Yields {α : Type} (x : BakeM α) (r : Except Fault α) (es : List Event) : Prop :=
  ∀ log, (ExceptT.run x).run log = (r, log ++ es)

namespace Yields

variable {α β : Type}

theorem run {x : BakeM α} {r : Except Fault α} {es : List Event} (h : Yields x r es) :
    x.run = (r, es) := by
  simpa [BakeM.run] using h []

theorem pure (a : α) : Yields (Pure.pure a : BakeM α) (.ok a) [] := by
  intro log
  simp only [ExceptT.run_pure, StateT.run_pure, List.append_nil]
  rfl

theorem throw (f : Fault) : Yields (MonadExcept.throw f : BakeM α) (.error f) [] := by
  intro log
  simp only [ExceptT.run_throw, StateT.run_pure, List.append_nil]
  rfl

theorem emit (e : Event) : Yields (BakeM.emit e) (.ok ()) [e] := fun _ => rfl

theorem lift (x : Except Fault α) : Yields (BakeM.lift x) x [] := by
  intro log
  cases x with
  | ok a => exact pure a log
  | error f => exact throw f log

/-- A step that succeeds passes its value on; the events of both steps are kept in order. -/
theorem bind {x : BakeM α} {f : α → BakeM β} {a : α} {r : Except Fault β} {es es' : List Event}
    (first : Yields x (.ok a) es) (rest : Yields (f a) r es') :
    Yields (x >>= f) r (es ++ es') := by
  intro log
  simp only [ExceptT.run_bind, StateT.run_bind]
  rw [first log, ← List.append_assoc]
  exact rest (log ++ es)

/-- A step that succeeds, followed by a pure result made from its value. -/
theorem bind_pure {x : BakeM α} {g : α → β} {a : α} {es : List Event}
    (first : Yields x (.ok a) es) : Yields (x >>= fun a => Pure.pure (g a)) (.ok (g a)) es := by
  intro log
  simp only [ExceptT.run_bind, StateT.run_bind]
  rw [first log]
  rfl

theorem map {x : BakeM α} {g : α → β} {a : α} {es : List Event}
    (first : Yields x (.ok a) es) : Yields (g <$> x) (.ok (g a)) es := by
  rw [map_eq_pure_bind]
  exact first.bind_pure

/-- A step that fails ends the resolution with its failure and its events. -/
theorem bind_error {x : BakeM α} {f : α → BakeM β} {e : Fault} {es : List Event}
    (first : Yields x (.error e) es) : Yields (x >>= f) (.error e) es := by
  intro log
  simp only [ExceptT.run_bind, StateT.run_bind]
  rw [first log]
  rfl

/-- A fold whose every step succeeds is the pure fold, with the events of the steps in
order. The events of a step may depend on the element but not on the accumulator. -/
theorem foldlM {γ : Type} {g : β → γ → BakeM β} {g' : β → γ → β} {events : γ → List Event}
    (step : ∀ acc x, Yields (g acc x) (.ok (g' acc x)) (events x)) :
    ∀ (xs : List γ) (acc : β), Yields (xs.foldlM g acc) (.ok (xs.foldl g' acc)) (xs.flatMap events)
  | [], acc => pure acc
  | x :: xs, acc => by
    rw [List.foldlM_cons, List.foldl_cons, List.flatMap_cons]
    exact (step acc x).bind (foldlM step xs (g' acc x))

/-- A resolution that succeeds reports nothing more. -/
theorem reportingFailure_ok {op : Operation} {body : BakeM α} {a : α} {es : List Event}
    (h : Yields body (.ok a) es) : Yields (reportingFailure op body) (.ok a) es := by
  intro log
  simp only [reportingFailure, ExceptT.run_tryCatch, StateT.run_bind]
  rw [h log]
  rfl

/-- A resolution that fails records the failure's own event last and fails the same way. -/
theorem reportingFailure_error {op : Operation} {body : BakeM α} {f : Fault} (es : List Event)
    (h : Yields body (.error f) es) :
    Yields (reportingFailure op body) (.error f) (es ++ [⟨op, .failed f.message⟩]) := by
  intro log
  simp only [reportingFailure, ExceptT.run_tryCatch, StateT.run_bind]
  rw [h log, ← List.append_assoc]
  rfl

end Yields

end BakeM

/-! ## Version overrides -/

/-- The events `overrideImage` records: one override when the overrides name the
distribution, none otherwise. -/
def overrideEvents (op : Operation) (image : SigImage) (distro : Distro)
    (overrides : List (String × String)) : List Event :=
  match overrides.lookup distro.value with
  | some version => [⟨op, .versionOverridden distro.value image.version version⟩]
  | none => []

theorem overrideImage_yields (op : Operation) (image : SigImage) (distro : Distro)
    (overrides : List (String × String)) :
    (overrideImage op image distro overrides).Yields (.ok (overrideVersion image distro overrides))
      (overrideEvents op image distro overrides) := by
  unfold overrideImage overrideVersion overrideEvents
  cases overrides.lookup distro.value with
  | none => exact BakeM.Yields.pure image
  | some version => exact (BakeM.Yields.emit _).bind (BakeM.Yields.pure (image.withVersion version))

end NodeImage
