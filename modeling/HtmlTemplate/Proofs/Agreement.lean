import HtmlTemplate.Resolve.Session
import Mathlib.Data.List.Forall2

/-!
# Results whatever the session

What a resolution gives often does not depend on the session that it runs in. `Gives` says
so of one resolution with a known result, and `Agree` of two resolutions whose results are
related or which fail alike. Both go through the steps of a resolution and through lists.
-/

namespace HtmlTemplate.Resolve

variable {σ α β γ δ : Type}

/-- What is made of a result comes from that result. -/
theorem exists_of_map_eq_ok {change : α → β} {outcome : Except Error α} {result : β}
    (made : outcome.map change = .ok result) :
    ∃ first, outcome = .ok first ∧ change first = result := by
  cases outcome with
  | ok first => exact ⟨first, rfl, Except.ok.inj made⟩
  | error error => cases made

/-- A resolution succeeds with a given result in every session. -/
def Gives (resolution : Resolution σ α) (result : α) : Prop :=
  ∀ session, ∃ session', resolution session = .ok result session'

/-- What a resolution gives comes from what its first step gives. -/
theorem exists_of_bind_eq_ok {resolution : Resolution σ α}
    {next : α → Resolution σ β} {result : β} {session session'' : Session σ}
    (ran : (resolution >>= next) session = .ok result session'') :
    ∃ first session', resolution session = .ok first session' ∧
      next first session' = .ok result session'' := by
  simp only [Bind.bind, EStateM.bind] at ran
  split at ran
  · rename_i first session' ranFirst
    exact ⟨first, session', ranFirst, ran⟩
  · cases ran

namespace Gives

/-- What is given at once is given from every session. -/
theorem pure (result : α) : Gives (Pure.pure result : Resolution σ α) result :=
  fun session => ⟨session, rfl⟩

/-- Two resolutions give what the second does behind the first. -/
theorem bind {resolution : Resolution σ α} {next : α → Resolution σ β} {first : α} {second : β}
    (gives : Gives resolution first) (givesNext : Gives (next first) second) :
    Gives (resolution >>= next) second := by
  intro session
  obtain ⟨session', ran⟩ := gives session
  obtain ⟨session'', ranNext⟩ := givesNext session'
  refine ⟨session'', ?_⟩
  simp only [Bind.bind, EStateM.bind, ran]
  exact ranNext

/-- If every element of a list gives a result, the list gives the list of the results. -/
theorem mapM {step : α → Resolution σ β} {list : List α} {results : List β}
    (gives : List.Forall₂ (fun element result => Gives (step element) result) list results) :
    Gives (list.mapM step) results := by
  induction gives with
  | nil =>
    rw [List.mapM_nil]
    exact pure []
  | cons first _ inductionHypothesis =>
    rw [List.mapM_cons]
    exact first.bind (inductionHypothesis.bind (pure _))

/-- What a resolution gives in every session it gives in one. -/
theorem eq_of_ran {resolution : Resolution σ α} {result result' : α}
    {session session' : Session σ} (gives : Gives resolution result)
    (ran : resolution session = .ok result' session') : result' = result := by
  obtain ⟨_, ran'⟩ := gives session
  rw [ran'] at ran
  cases ran
  rfl

end Gives

/-- A list is resolved element by element. -/
theorem exists_of_mapM_eq_ok {step : α → Resolution σ β} {list : List α} {results : List β}
    {session session' : Session σ} (ran : list.mapM step session = .ok results session') :
    List.Forall₂
      (fun element result => ∃ before after, step element before = .ok result after)
      list results := by
  induction list generalizing results session with
  | nil =>
    rw [List.mapM_nil] at ran
    cases ran
    exact .nil
  | cons element list inductionHypothesis =>
    rw [List.mapM_cons] at ran
    obtain ⟨first, between, ranFirst, ran⟩ := exists_of_bind_eq_ok ran
    obtain ⟨others, after, ranOthers, ran⟩ := exists_of_bind_eq_ok ran
    cases ran
    exact .cons ⟨session, between, ranFirst⟩ (inductionHypothesis ranOthers)

/-- Two resolutions, in any two sessions, either succeed with related results or fail with
the same error. -/
def Agree (related : α → β → Prop) (first : Resolution σ α) (second : Resolution σ β) : Prop :=
  ∀ session session',
    match first session, second session' with
    | .ok result _, .ok result' _ => related result result'
    | .error error _, .error error' _ => error = error'
    | _, _ => False

namespace Agree

/-- Resolutions that give related results agree. -/
theorem of_gives {related : α → β → Prop} {first : Resolution σ α} {second : Resolution σ β}
    {result : α} {result' : β} (gives : Gives first result) (gives' : Gives second result')
    (holds : related result result') : Agree related first second := by
  intro session session'
  obtain ⟨_, ran⟩ := gives session
  obtain ⟨_, ran'⟩ := gives' session'
  simpa only [ran, ran'] using holds

theorem pure {related : α → β → Prop} {result : α} {result' : β}
    (holds : related result result') :
    Agree related (Pure.pure result : Resolution σ α) (Pure.pure result' : Resolution σ β) :=
  of_gives (.pure result) (.pure result') holds

/-- The same failure agrees with itself. -/
theorem throw {related : α → β → Prop} (error : Error) :
    Agree related (throw error : Resolution σ α) (throw error : Resolution σ β) :=
  fun _ _ => rfl

theorem bind {related : α → β → Prop} {relatedNext : γ → δ → Prop}
    {first : Resolution σ α} {second : Resolution σ β}
    {next : α → Resolution σ γ} {next' : β → Resolution σ δ}
    (agree : Agree related first second)
    (agreeNext : ∀ result result', related result result' →
      Agree relatedNext (next result) (next' result')) :
    Agree relatedNext (first >>= next) (second >>= next') := by
  intro session session'
  have both := agree session session'
  simp only [Bind.bind, EStateM.bind]
  cases ran : first session with
  | ok result after =>
    cases ran' : second session' with
    | ok result' after' =>
      rw [ran, ran'] at both
      exact agreeNext result result' both after after'
    | error error' after' =>
      rw [ran, ran'] at both
      exact both.elim
  | error error after =>
    cases ran' : second session' with
    | ok result' after' =>
      rw [ran, ran'] at both
      exact both.elim
    | error error' after' =>
      rw [ran, ran'] at both
      exact both

/-- Lists whose elements agree one by one agree. -/
theorem mapM {elements : α → β → Prop} {related : γ → δ → Prop}
    {step : α → Resolution σ γ} {step' : β → Resolution σ δ} {list : List α} {list' : List β}
    (pairs : List.Forall₂ elements list list')
    (agree : ∀ element element', elements element element' →
      Agree related (step element) (step' element')) :
    Agree (List.Forall₂ related) (list.mapM step) (list'.mapM step') := by
  induction pairs with
  | nil =>
    simp only [List.mapM_nil]
    exact pure .nil
  | cons pair _ inductionHypothesis =>
    simp only [List.mapM_cons]
    refine (agree _ _ pair).bind fun result result' holds => ?_
    refine inductionHypothesis.bind fun results results' hold => ?_
    exact pure (.cons holds hold)

/-- Results may be related more weakly than they are. -/
theorem mono {related weaker : α → β → Prop} {first : Resolution σ α} {second : Resolution σ β}
    (agree : Agree related first second)
    (weaken : ∀ result result', related result result' → weaker result result') :
    Agree weaker first second := by
  intro session session'
  have both := agree session session'
  revert both
  split
  · exact weaken _ _
  · exact id
  · exact id

end Agree

end HtmlTemplate.Resolve
