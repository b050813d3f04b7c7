import TripProposal.Proofs.Template.Segmentation

/-!
# Levels to spare

The number of levels that may open inside each other matters only where it is too small: a rendering
that does not run out of levels is the same with more of them.
-/

namespace TripProposal.Template

namespace Rendering

/-- A rendering came to an end before it ran out of levels. -/
def Ends (r : Rendering) : Prop := r.fault? ≠ some .tooDeep

variable {α : Type} {r : Rendering} {next next' : Unit → Rendering} {f g : α → Rendering}
  {l : List α}

/-- Without a fault the depth was enough. -/
lemma ends_of_fault?_eq_none (h : r.fault? = none) : r.Ends := by
  simp [Ends, h]

/-- What ends has a first part that ends. -/
lemma Ends.of_andThen (h : (r.andThen next).Ends) : r.Ends := by
  unfold Rendering.andThen at h
  cases hf : r.fault? with
  | some fault => rwa [hf] at h
  | none => exact ends_of_fault?_eq_none hf

/-- If the first part ends, only the second one can differ. -/
lemma andThen_eq_of_ends (h : (r.andThen next).Ends)
    (hnext : (next ()).Ends → next' () = next ()) : r.andThen next' = r.andThen next := by
  unfold Rendering.andThen at h ⊢
  cases hf : r.fault? with
  | some fault => rfl
  | none =>
    rw [hf] at h
    simp only [hnext h]

lemma concatMap_eq_of_ends (h : (concatMap f l).Ends) (hf : ∀ v, (f v).Ends → g v = f v) :
    concatMap g l = concatMap f l := by
  induction l with
  | nil => rfl
  | cons v l ih =>
    rw [Rendering.concatMap] at h ⊢
    rw [Rendering.concatMap, hf v h.of_andThen]
    exact andThen_eq_of_ends h ih

lemma ofFound_eq_of_ends {found : Except Fault α} (h : (ofFound found f).Ends)
    (hf : ∀ v, (f v).Ends → g v = f v) : ofFound found g = ofFound found f := by
  cases found with
  | ok v => exact hf v h
  | error fault => rfl

end Rendering

variable {engine : Engine} {render render' : Scope → List CodePoint → Rendering} {scope : Scope}
  {kind : BlockKind} {expression body template : List CodePoint} {depth depth' : Nat}

/-- A block that ends is rendered the same by whatever renders the bodies that end the same. -/
lemma renderBlock_eq_of_ends
    (hrender : ∀ scope body, (render scope body).Ends → render' scope body = render scope body)
    (h : (renderBlock render scope kind expression body).Ends) :
    renderBlock render' scope kind expression body =
      renderBlock render scope kind expression body := by
  cases kind with
  | whenSet =>
    refine Rendering.ofFound_eq_of_ends h fun v hv => ?_
    cases hbranch : branch? (isPresent v) body with
    | none => rfl
    | some branch => exact hrender _ _ (by simpa [hbranch] using hv)
  | whenUnset =>
    refine Rendering.ofFound_eq_of_ends h fun v hv => ?_
    cases hpresent : isPresent v with
    | true => rfl
    | false => exact hrender _ _ (by simpa [hpresent] using hv)
  | forEach =>
    refine Rendering.ofFound_eq_of_ends h fun v hv => ?_
    exact Rendering.concatMap_eq_of_ends hv fun entry => hrender _ _
  | within =>
    refine Rendering.ofFound_eq_of_ends h fun v hv => ?_
    cases v with
    | none => rfl
    | some value =>
      cases hpresent : isPresent (some value) with
      | true => simpa [hpresent] using hrender _ _ (by simpa [hpresent] using hv)
      | false => simp [hpresent]

/-- Where the depth was enough, one more level changes nothing. -/
lemma renderAt_succ (h : (engine.renderAt depth scope template).Ends) :
    engine.renderAt (depth + 1) scope template = engine.renderAt depth scope template := by
  induction depth generalizing scope template with
  | zero => exact absurd rfl h
  | succ depth ih =>
    refine Rendering.concatMap_eq_of_ends h fun segment hsegment => ?_
    cases segment with
    | block kind expression body =>
      exact renderBlock_eq_of_ends (fun scope body hbody => ih hbody) hsegment
    | _ => rfl

/-- What ends is rendered the same with more levels to open. -/
lemma renderAt_of_le (hle : depth ≤ depth') (h : (engine.renderAt depth scope template).Ends) :
    engine.renderAt depth' scope template = engine.renderAt depth scope template := by
  induction hle with
  | refl => rfl
  | step hle ih => rw [renderAt_succ (by rw [ih]; exact h), ih]

end TripProposal.Template
