import HtmlTemplate.Resolve.Convert

/-!
# Visits

What a value gives inside an element, found by going through it from left to right, one step at
a time. A visit begins with the value at level 0 and keeps in order what it has still to go to. A
list, a map, a sequence or a component gives way to what it holds, one level below. The visit fails
where it comes to a value at level 257, or to value 100001 of a sequence.

Every visit ends, and flattening gives what the visit ends with (`convertChild_visits`).
-/

namespace HtmlTemplate.Resolve

open Markup (Child escape)

variable {σ α : Type}

/-- What a visit has still to go to. -/
inductive Pending where
  /-- A value at some level. -/
  | value (level : Nat) (value : Value)
  /-- What is left of a sequence at some level that has yielded some values to this visit. -/
  | sequence (level id yielded : Nat)

/-- What a visit ends with: its leaves or a failure, and the session. -/
abbrev Outcome (σ : Type) :=
  EStateM.Result Error (Session σ) (List Child)

/-- A visit under way. -/
structure Visit (σ : Type) where
  session : Session σ
  /-- The leaves so far, in the order of the visit. -/
  leaves : List Child
  /-- What is still to be gone to, the next one first. -/
  pending : List Pending

namespace Visit

/-- What one step of a visit comes to. -/
inductive Next (σ : Type) where
  | visit (next : Visit σ)
  | ended (outcome : Outcome σ)

/-- The visit of a value that has not been entered yet. -/
def start (value : Value) (session : Session σ) : Visit σ where
  session
  leaves := []
  pending := [.value 0 value]

/-- Goes into a value that is at some level, with the rest of a visit behind it. Elements and the
children of a fragment are leaves, and so are texts and scalars, which are escaped. -/
def enter (host : Host σ) (session : Session σ) (leaves : List Child) (level : Nat)
    (rest : List Pending) : Value → Visit σ
  | .markup node =>
    ⟨session, leaves ++ if node.isFragment then node.children else [node.toChild], rest⟩
  | .text text => ⟨session, leaves ++ [.text (escape text)], rest⟩
  | .list items => ⟨session, leaves, items.map (.value (level + 1)) ++ rest⟩
  | .map entries =>
    ⟨session, leaves, entries.map (fun (key, _) => .value (level + 1) (.text key)) ++ rest⟩
  | .sequence id => ⟨session, leaves, .sequence level id 0 :: rest⟩
  | .component _ id =>
    let (value, state) := host.call id session.state
    ⟨{ session with state }, leaves, .value (level + 1) value :: rest⟩
  | scalar => ⟨session, leaves ++ [.text (escape scalar.display)], rest⟩

/-- One step of a visit. It comes to level 256 at most, and takes 100000 values from a sequence at
most. -/
def next (host : Host σ) : Visit σ → Next σ
  | ⟨session, leaves, []⟩ => .ended (.ok leaves session)
  | ⟨session, leaves, .value level value :: rest⟩ =>
    if 256 < level then .ended (.error (.nestingTooDeep 256) session)
    else .visit (enter host session leaves level rest value)
  | ⟨session, leaves, .sequence level id yielded :: rest⟩ =>
    let (value?, state) := host.pull id session.state
    match value? with
    | none => .visit ⟨{ session with state }, leaves, rest⟩
    | some value =>
      if 100000 ≤ yielded then
        .ended (.error (.tooManyValues 100000) { session with state })
      else
        .visit ⟨{ session with state }, leaves,
          .value (level + 1) value :: .sequence level id (yielded + 1) :: rest⟩

section Steps

variable {host : Host σ} {session : Session σ} {leaves : List Child} {rest : List Pending}
  {level id yielded : Nat} {value : Value} {state : σ}

theorem next_value (within : level ≤ 256) :
    next host ⟨session, leaves, .value level value :: rest⟩ =
      .visit (enter host session leaves level rest value) :=
  if_neg (by omega)

theorem next_value_of_lt (deep : 256 < level) :
    next host ⟨session, leaves, .value level value :: rest⟩ =
      .ended (.error (.nestingTooDeep 256) session) :=
  if_pos deep

theorem next_of_exhausted (pulled : host.pull id session.state = (none, state)) :
    next host ⟨session, leaves, .sequence level id yielded :: rest⟩ =
      .visit ⟨{ session with state }, leaves, rest⟩ := by
  simp only [next, pulled]

theorem next_of_yield (pulled : host.pull id session.state = (some value, state))
    (within : yielded < 100000) :
    next host ⟨session, leaves, .sequence level id yielded :: rest⟩ =
      .visit ⟨{ session with state }, leaves,
        .value (level + 1) value :: .sequence level id (yielded + 1) :: rest⟩ := by
  simp only [next, pulled, if_neg (Nat.not_le_of_lt within)]

theorem next_of_yield_of_le (pulled : host.pull id session.state = (some value, state))
    (full : 100000 ≤ yielded) :
    next host ⟨session, leaves, .sequence level id yielded :: rest⟩ =
      .ended (.error (.tooManyValues 100000) { session with state }) := by
  simp only [next, pulled, if_pos full]

end Steps

/-- A visit ends with an outcome after finitely many steps. -/
inductive Ends (host : Host σ) : Visit σ → Outcome σ → Prop where
  | last {visit : Visit σ} {outcome : Outcome σ} (step : visit.next host = .ended outcome) :
      Ends host visit outcome
  | step {visit following : Visit σ} {outcome : Outcome σ}
      (step : visit.next host = .visit following) (ends : Ends host following outcome) :
      Ends host visit outcome

/-- A visit ends in one way only. -/
theorem Ends.unique {host : Host σ} {visit : Visit σ} {outcome outcome' : Outcome σ}
    (ends : Ends host visit outcome) (ends' : Ends host visit outcome') : outcome = outcome' := by
  induction ends with
  | last step =>
    cases ends' with
    | last step' => exact Next.ended.inj (step.symm.trans step')
    | step step' _ => cases step.symm.trans step'
  | step step _ inductionHypothesis =>
    cases ends' with
    | last step' => cases step.symm.trans step'
    | step step' ends' =>
      cases step.symm.trans step'
      exact inductionHypothesis ends'

end Visit

/-! ## Parts of a visit -/

/-- What a part of a visit has to do with what a resolution gives: behind the part the visit goes
on with the children as further leaves, and it fails where the resolution fails. -/
inductive Follows (host : Host σ) (visit : Visit σ) (leaves : List Child) (rest : List Pending) :
    Outcome σ → Prop where
  | ok {children : List Child} {stop : Session σ}
      (onward : ∀ outcome, Visit.Ends host ⟨stop, leaves ++ children, rest⟩ outcome →
        visit.Ends host outcome) :
      Follows host visit leaves rest (.ok children stop)
  | error {error : Error} {stop : Session σ} (ends : visit.Ends host (.error error stop)) :
      Follows host visit leaves rest (.error error stop)

namespace Follows

variable {host : Host σ} {visit following : Visit σ} {leaves : List Child} {rest : List Pending}

theorem step {outcome : Outcome σ} (first : visit.next host = .visit following)
    (follows : Follows host following leaves rest outcome) :
    Follows host visit leaves rest outcome := by
  cases follows with
  | ok onward => exact .ok fun outcome ends => .step first (onward outcome ends)
  | error ends => exact .error (.step first ends)

theorem bind {first : Resolution σ (List Child)} {second : List Child → Resolution σ (List Child)}
    {session : Session σ} {middle : List Child} {between : List Pending}
    (follows : Follows host visit middle between (first session))
    (followsNext : ∀ children stop,
      Follows host ⟨stop, middle ++ children, between⟩ leaves rest (second children stop)) :
    Follows host visit leaves rest ((first >>= second) session) := by
  simp only [Bind.bind, EStateM.bind]
  generalize first session = result at follows ⊢
  cases follows with
  | @ok children stop onward =>
    have goesOn := followsNext children stop
    simp only
    generalize second children stop = result at goesOn ⊢
    cases goesOn with
    | ok onwardNext => exact .ok fun outcome ends => onward outcome (onwardNext outcome ends)
    | error ends => exact .error (onward _ ends)
  | error ends => exact .error ends

end Follows

section Draining

variable {host : Host σ} {session : Session σ} {id : Nat} {value : Value} {state : σ}
  {convert : Value → Resolution σ (List Child)} {taken : List (List Child)}

theorem drain_of_exhausted {left : Nat} (pulled : host.pull id session.state = (none, state)) :
    drain host id convert left taken session =
      .ok taken.reverse.flatten { session with state } := by
  cases left <;> simp only [drain, useHost, bind, EStateM.bind, pulled] <;> rfl

theorem drain_zero_of_yield (pulled : host.pull id session.state = (some value, state)) :
    drain host id convert 0 taken session =
      .error (.tooManyValues sequenceLimit) { session with state } := by
  simp only [drain, useHost, bind, EStateM.bind, pulled]
  rfl

theorem drain_succ_of_yield {left : Nat}
    (pulled : host.pull id session.state = (some value, state)) :
    drain host id convert (left + 1) taken session =
      (do
        let children ← convert value
        drain host id convert left (children :: taken)) { session with state } := by
  simp only [drain, useHost, bind, EStateM.bind, pulled]

end Draining

/-- Visiting what is pending gives what a resolution gives, whatever comes before and behind. -/
def Visits (host : Host σ) (pending : List Pending) (resolution : Resolution σ (List Child)) :
    Prop :=
  ∀ session leaves rest,
    Follows host ⟨session, leaves, pending ++ rest⟩ leaves rest (resolution session)

namespace Visits

variable {host : Host σ}

/-- Elements that are visited one after the other give their children one after the other. -/
theorem mapM {pending : α → Pending} {convert : α → Resolution σ (List Child)} (list : List α)
    (visits : ∀ element, Visits host [pending element] (convert element)) :
    Visits host (list.map pending) (List.flatten <$> list.mapM convert) := by
  induction list with
  | nil =>
    intro session leaves rest
    refine .ok fun outcome ends => ?_
    rwa [List.reverse_nil, List.flatten_nil, List.append_nil] at ends
  | cons element list inductionHypothesis =>
    intro session leaves rest
    have split : (List.flatten <$> (element :: list).mapM convert) = (do
        let children ← convert element
        let others ← List.flatten <$> list.mapM convert
        pure (children ++ others)) := by
      simp
    rw [split]
    refine (visits element session leaves (list.map pending ++ rest)).bind fun children stop => ?_
    refine (inductionHypothesis stop (leaves ++ children) rest).bind fun others stop => ?_
    exact .ok fun outcome ends => by rwa [← List.append_assoc] at ends

/-- A sequence that has been visited in part is drained as it is visited to its end. -/
theorem drain {convert : Value → Resolution σ (List Child)} {level : Nat} (id : Nat)
    (visits : ∀ value, Visits host [.value (level + 1) value] (convert value))
    {left yielded : Nat} (taken : List (List Child)) (sum : yielded + left = 100000)
    (session : Session σ) (leaves : List Child) (rest : List Pending) :
    Follows host
      ⟨session, leaves ++ taken.reverse.flatten, .sequence level id yielded :: rest⟩ leaves rest
      (Resolve.drain host id convert left taken session) := by
  -- The limit is the sum of what was yielded and what is left, so both find it reached at once.
  induction left generalizing yielded taken session with
  | zero =>
    cases pulled : host.pull id session.state with
    | mk value? state =>
      cases value? with
      | none =>
        rw [drain_of_exhausted pulled]
        exact .ok fun outcome ends => .step (Visit.next_of_exhausted pulled) ends
      | some value =>
        rw [drain_zero_of_yield pulled]
        exact .error (.last (Visit.next_of_yield_of_le pulled (by omega)))
  | succ left inductionHypothesis =>
    cases pulled : host.pull id session.state with
    | mk value? state =>
      cases value? with
      | none =>
        rw [drain_of_exhausted pulled]
        exact .ok fun outcome ends => .step (Visit.next_of_exhausted pulled) ends
      | some value =>
        rw [drain_succ_of_yield pulled]
        refine .step (Visit.next_of_yield pulled (by omega)) ?_
        refine (visits value _ _ _).bind fun children stop => ?_
        have others := inductionHypothesis (children :: taken)
          (show yielded + 1 + left = 100000 by omega) stop
        rwa [List.reverse_cons, List.flatten_append, List.flatten_singleton,
          ← List.append_assoc] at others

/-- Flattening a value visits it, if the room that is left goes with its level. -/
theorem flatten {room level : Nat} (sum : level + room = 257) (value : Value) :
    Visits host [.value level value] (Resolve.flatten host room value) := by
  induction room generalizing level value with
  | zero =>
    intro session leaves rest
    rw [Resolve.flatten]
    exact .error (.last (Visit.next_value_of_lt (by omega)))
  | succ room inductionHypothesis =>
    intro session leaves rest
    have below : ∀ value, Visits host [.value (level + 1) value]
        (Resolve.flatten host room value) :=
      inductionHypothesis (by omega)
    refine .step (Visit.next_value (by omega)) ?_
    cases value with
    | list items =>
      rw [Resolve.flatten]
      exact mapM items below session leaves rest
    | map entries =>
      rw [Resolve.flatten]
      exact mapM entries (fun entry => below (.text entry.1)) session leaves rest
    | sequence id =>
      have drained := drain id below [] (Nat.zero_add sequenceLimit) session leaves rest
      rwa [List.reverse_nil, List.flatten_nil, List.append_nil] at drained
    | component name id => exact below _ _ leaves rest
    | _ => exact .ok fun outcome ends => ends

end Visits

/-- The fragments of a value's conversion are what the value is flattened to. -/
theorem toList_convertChild (host : Host σ) (value : Value) :
    Converted.toList <$> convertChild host value = flatten host (depthLimit + 1) value := by
  rw [convertChild, map_bind]
  refine (bind_congr fun children => ?_).trans (bind_pure (flatten host (depthLimit + 1) value))
  split <;> exact map_pure _ _

/-- The visit of a value ends, in one way only, and that is how the conversion of the value comes
out: with the leaves of the visit in its order, or with the failure that it meets first. -/
theorem convertChild_visits (host : Host σ) (value : Value) (session : Session σ)
    (outcome : Outcome σ) :
    Visit.Ends host (.start value session) outcome ↔
      (Converted.toList <$> convertChild host value) session = outcome := by
  have ends : Visit.Ends host (.start value session)
      ((Converted.toList <$> convertChild host value) session) := by
    rw [toList_convertChild]
    have follows : Follows host (.start value session) [] []
        (flatten host (depthLimit + 1) value session) :=
      Visits.flatten (Nat.zero_add 257) value session [] []
    generalize flatten host (depthLimit + 1) value session = result at follows ⊢
    cases follows with
    | ok onward => exact onward _ (.last rfl)
    | error ends => exact ends
  constructor
  · exact ends.unique
  · rintro rfl
    exact ends

end HtmlTemplate.Resolve
