import HtmlTemplate.Proofs.Agreement

/-!
# Results that a resolution can have

What a resolution gives depends on the state of its host, and changes it. `Ensures` says that
among some states, which the resolution does not leave, all of its results have a property. It
goes through the steps of a resolution and through lists.
-/

namespace HtmlTemplate.Resolve

variable {σ α β : Type}

/-- From a possible state of the host, a resolution comes to possible states only, and to
results with a property only, if it does not fail. -/
def Ensures (possible : σ → Prop) (resolution : Resolution σ α) (holds : α → Prop) : Prop :=
  ∀ session result session', possible session.state →
    resolution session = .ok result session' → possible session'.state ∧ holds result

namespace Ensures

variable {possible : σ → Prop} {holds : α → Prop} {holdsNext : β → Prop}

/-- What is given at once ensures what holds of it. -/
theorem pure {result : α} (fact : holds result) :
    Ensures possible (Pure.pure result : Resolution σ α) holds := by
  intro session _ session' before ran
  cases ran
  exact ⟨before, fact⟩

/-- A failure ensures anything of its result, as it has none. -/
theorem throw (error : Error) : Ensures possible (throw error : Resolution σ α) holds :=
  fun _ _ _ _ ran => nomatch ran

/-- Two resolutions ensure what the second does behind all that the first ensures. -/
theorem bind {first : Resolution σ α} {next : α → Resolution σ β}
    (ensures : Ensures possible first holds)
    (ensuresNext : ∀ result, holds result → Ensures possible (next result) holdsNext) :
    Ensures possible (first >>= next) holdsNext := by
  intro session result session'' before ran
  obtain ⟨middle, session', ranFirst, ranNext⟩ := exists_of_bind_eq_ok ran
  obtain ⟨between, fact⟩ := ensures session middle session' before ranFirst
  exact ensuresNext middle fact session' result session'' between ranNext

/-- Less may be ensured than is. -/
theorem mono {weaker : α → Prop} {resolution : Resolution σ α}
    (ensures : Ensures possible resolution holds)
    (weaken : ∀ result, holds result → weaker result) :
    Ensures possible resolution weaker := by
  intro session result session' before ran
  exact (ensures session result session' before ran).imp_right (weaken result)

/-- What every element of a list ensures holds of all results. -/
theorem mapM {step : α → Resolution σ β} {list : List α}
    (each : ∀ element ∈ list, Ensures possible (step element) holdsNext) :
    Ensures possible (list.mapM step) fun results => ∀ result ∈ results, holdsNext result := by
  induction list with
  | nil =>
    rw [List.mapM_nil]
    exact pure (by simp)
  | cons element list inductionHypothesis =>
    rw [List.mapM_cons]
    refine (each element (by simp)).bind fun result first => ?_
    refine (inductionHypothesis fun other member => each other (by simp [member])).bind
      fun results others => ?_
    exact pure (List.forall_mem_cons.mpr ⟨first, others⟩)

/-- One use of the host. -/
theorem useHost {use : σ → α × σ}
    (used : ∀ state, possible state → possible (use state).2 ∧ holds (use state).1) :
    Ensures possible (useHost use) holds := by
  intro session _ _ before ran
  cases ran
  exact used session.state before

end Ensures

end HtmlTemplate.Resolve
