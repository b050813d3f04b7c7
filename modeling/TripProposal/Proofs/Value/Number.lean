import TripProposal.Proofs.Number.Range
import TripProposal.Value.Number

/-!
# Values beyond the range of numbers

Every value is read as a number or found to be none, unless it is a whole number that lies beyond
the range of numbers.
-/

namespace TripProposal

open Number

/-- A whole number beyond the range of numbers. -/
def Value.IsBeyondRange (v : Value) : Prop :=
  ∃ n, v = .int n ∧ Nat.pow 2 1024 - Nat.pow 2 970 ≤ n.natAbs

/-- A value is read as a number unless it is beyond the range. -/
lemma Value.exists_number? (v : Value) : (∃ x, v.number? = .ok x) ↔ ¬ v.IsBeyondRange := by
  cases v with
  | int n =>
    have hrange := Binary64.ofInt?_eq_none_iff n
    cases hn : Binary64.ofInt? n with
    | none =>
      have hbeyond : (Value.int n).IsBeyondRange := ⟨n, rfl, hrange.mp hn⟩
      simp [number?, hn, hbeyond]
    | some x =>
      have hwithin : ¬ (Value.int n).IsBeyondRange := by
        rintro ⟨m, hm, hbeyond⟩
        obtain rfl := Value.int.inj hm
        rw [hrange.mpr hbeyond] at hn
        cases hn
      simp [number?, hn, hwithin]
  | text s =>
    refine iff_of_true ?_ nofun
    unfold number?
    dsimp only
    split <;> exact ⟨_, rfl⟩
  | _ => exact iff_of_true ⟨_, rfl⟩ nofun

end TripProposal
