import HtmlTemplate.Dictionary
import Mathlib.Tactic.Common

/-!
# Entered entries

What is in a dictionary behind an entry, under which keys, and what is found under a key.
-/

namespace HtmlTemplate.Dictionary

variable {α β : Type}

/-- Values can be changed before or after they are entered. -/
theorem insert_map (change : α → β) (entries : Dictionary α) (key : Text) (value : α) :
    (insert entries key value).map (fun (key, value) => (key, change value)) =
      insert (entries.map fun (key, value) => (key, change value)) key (change value) := by
  induction entries with
  | nil => rfl
  | cons entry entries inductionHypothesis =>
    obtain ⟨k, v⟩ := entry
    by_cases here : k = key
    · simp [insert, here]
    · simp [insert, here, inductionHypothesis]

/-- Changing the values of two dictionaries does not change which entries they have together. -/
theorem extend_map (change : α → β) (entries more : Dictionary α) :
    (extend entries more).map (fun (key, value) => (key, change value)) =
      extend (entries.map fun (key, value) => (key, change value))
        (more.map fun (key, value) => (key, change value)) := by
  induction more generalizing entries with
  | nil => rfl
  | cons entry more inductionHypothesis =>
    have later := inductionHypothesis (insert entries entry.1 entry.2)
    rw [insert_map] at later
    exact later

/-- An entry of a dictionary behind an insertion was there, or is the one inserted. -/
theorem mem_insert {entries : Dictionary α} {key : Text} {value : α} {entry : Text × α}
    (member : entry ∈ insert entries key value) : entry ∈ entries ∨ entry = (key, value) := by
  induction entries with
  | nil => exact .inr (List.mem_singleton.mp member)
  | cons first entries inductionHypothesis =>
    obtain ⟨k, v⟩ := first
    rw [insert] at member
    split at member
    · rcases List.mem_cons.mp member with rfl | member
      · exact .inr rfl
      · exact .inl (List.mem_cons_of_mem _ member)
    · rcases List.mem_cons.mp member with rfl | member
      · exact .inl List.mem_cons_self
      · exact (inductionHypothesis member).imp_left (List.mem_cons_of_mem _)

/-- An entry of two dictionaries together is one of either. -/
theorem mem_extend {entries more : Dictionary α} {entry : Text × α}
    (member : entry ∈ extend entries more) : entry ∈ entries ∨ entry ∈ more := by
  induction more generalizing entries with
  | nil => exact .inl member
  | cons first more inductionHypothesis =>
    rcases inductionHypothesis member with member | member
    · rcases mem_insert member with member | rfl
      · exact .inl member
      · exact .inr List.mem_cons_self
    · exact .inr (List.mem_cons_of_mem _ member)

/-- A dictionary made of a list has none but its entries. -/
theorem mem_ofList {entries : List (Text × α)} {entry : Text × α}
    (member : entry ∈ ofList entries) : entry ∈ entries :=
  (mem_extend member).resolve_left (by simp)

/-- An entry behind an insertion that replaces nothing was there, or is the one inserted. -/
theorem mem_insertNew {entries : Dictionary α} {key : Text} {value : α} {entry : Text × α}
    (member : entry ∈ insertNew entries key value) : entry ∈ entries ∨ entry = (key, value) := by
  unfold insertNew at member
  split at member
  · exact .inl member
  · exact (List.mem_append.mp member).imp_right List.mem_singleton.mp

/-- An entry behind an extension that replaces nothing is one of either dictionary. -/
theorem mem_extendNew {entries more : Dictionary α} {entry : Text × α}
    (member : entry ∈ extendNew entries more) : entry ∈ entries ∨ entry ∈ more := by
  induction more generalizing entries with
  | nil => exact .inl member
  | cons first more inductionHypothesis =>
    rcases inductionHypothesis member with member | member
    · rcases mem_insertNew member with member | rfl
      · exact .inl member
      · exact .inr List.mem_cons_self
    · exact .inr (List.mem_cons_of_mem _ member)

/-! ## Keys -/

/-- The key of the first entry comes first. -/
theorem keys_cons (entry : Text × α) (entries : Dictionary α) :
    keys (entry :: entries) = entry.1 :: keys entries := rfl

/-- Whether a key is there is found entry by entry. -/
theorem any_eq_true_iff {entries : Dictionary α} {key : Text} :
    entries.any (·.1 = key) = true ↔ key ∈ keys entries := by
  simp [keys]

/-- A key behind an insertion was there, or is the one inserted. -/
theorem mem_keys_insert {entries : Dictionary α} {key other : Text} {value : α}
    (member : other ∈ keys (insert entries key value)) : other ∈ keys entries ∨ other = key := by
  obtain ⟨entry, among, rfl⟩ := List.mem_map.mp member
  rcases mem_insert among with among | rfl
  · exact .inl (List.mem_map_of_mem among)
  · exact .inr rfl

/-- No entry gives a key a second place. -/
theorem nodup_keys_insert {entries : Dictionary α} (distinct : (keys entries).Nodup) (key : Text)
    (value : α) : (keys (insert entries key value)).Nodup := by
  induction entries with
  | nil => simp [insert, keys]
  | cons entry entries inductionHypothesis =>
    obtain ⟨k, v⟩ := entry
    simp only [keys, List.map_cons, List.nodup_cons] at distinct
    rw [insert]
    split
    · rename_i here
      subst here
      simpa only [keys, List.map_cons, List.nodup_cons] using distinct
    · rename_i other
      simp only [keys, List.map_cons, List.nodup_cons]
      refine ⟨fun member => ?_, inductionHypothesis distinct.2⟩
      rcases mem_keys_insert member with member | same
      · exact distinct.1 member
      · exact other same

/-- An extension sets no key twice. -/
theorem nodup_keys_extend {entries : Dictionary α} (distinct : (keys entries).Nodup)
    (more : Dictionary α) : (keys (extend entries more)).Nodup := by
  induction more generalizing entries with
  | nil => exact distinct
  | cons entry more inductionHypothesis =>
    exact inductionHypothesis (nodup_keys_insert distinct entry.1 entry.2)

/-- The entries of all dictionaries that are entered one after the other. -/
theorem mem_foldl_extend {entries : Dictionary α} {all : List (Dictionary α)} {entry : Text × α}
    (member : entry ∈ all.foldl extend entries) :
    entry ∈ entries ∨ ∃ more ∈ all, entry ∈ more := by
  induction all generalizing entries with
  | nil => exact .inl member
  | cons first all inductionHypothesis =>
    rcases inductionHypothesis member with among | ⟨more, within, among⟩
    · rcases mem_extend among with among | among
      · exact .inl among
      · exact .inr ⟨first, by simp, among⟩
    · exact .inr ⟨more, List.mem_cons_of_mem first within, among⟩

/-- Extensions one after the other set no key twice. -/
theorem nodup_keys_foldl_extend {entries : Dictionary α} (distinct : (keys entries).Nodup)
    (all : List (Dictionary α)) : (keys (all.foldl extend entries)).Nodup := by
  induction all generalizing entries with
  | nil => exact distinct
  | cons first all inductionHypothesis =>
    exact inductionHypothesis (nodup_keys_extend distinct first)

/-- A key that is new is inserted at the end. -/
theorem insert_of_not_mem {entries : Dictionary α} {key : Text} (fresh : key ∉ keys entries)
    (value : α) : insert entries key value = entries ++ [(key, value)] := by
  induction entries with
  | nil => rfl
  | cons entry entries inductionHypothesis =>
    simp only [keys, List.map_cons, List.mem_cons, not_or] at fresh
    rw [insert, if_neg (Ne.symm fresh.1), inductionHypothesis fresh.2]
    rfl

/-- Entries under different keys are entered one behind the other. -/
theorem foldl_extend_singleton {entries more : Dictionary α}
    (distinct : (keys (entries ++ more)).Nodup) :
    (more.map fun entry => [entry]).foldl extend entries = entries ++ more := by
  induction more generalizing entries with
  | nil => simp
  | cons entry more inductionHypothesis =>
    have fresh : entry.1 ∉ keys entries := by
      intro member
      rw [keys, List.map_append, List.nodup_append] at distinct
      exact distinct.2.2 _ member _ (by simp) rfl
    have first : extend entries [entry] = entries ++ [entry] := insert_of_not_mem fresh entry.2
    rw [List.map_cons, List.foldl_cons, first, inductionHypothesis (by simpa using distinct)]
    simp

/-- An insertion adds its key at the end, unless it is there. -/
theorem keys_insert (entries : Dictionary α) (key : Text) (value : α) :
    keys (insert entries key value) =
      if key ∈ keys entries then keys entries else keys entries ++ [key] := by
  induction entries with
  | nil => rfl
  | cons entry entries inductionHypothesis =>
    obtain ⟨k, v⟩ := entry
    rw [insert]
    by_cases here : k = key
    · simp [here, keys_cons]
    · rw [if_neg here, keys_cons, keys_cons, inductionHypothesis]
      by_cases member : key ∈ keys entries
      · simp [member]
      · simp [member, Ne.symm here]

/-- An insertion that replaces nothing has the same effect on the keys. -/
theorem keys_insertNew (entries : Dictionary α) (key : Text) (value : α) :
    keys (insertNew entries key value) =
      if key ∈ keys entries then keys entries else keys entries ++ [key] := by
  simp only [insertNew, any_eq_true_iff]
  split
  · rfl
  · simp [keys]

/-- Whether what was there is replaced or left, the keys are the same. -/
theorem keys_extend_eq_keys_extendNew (entries more : Dictionary α) :
    keys (extend entries more) = keys (extendNew entries more) := by
  have same (before before' : Dictionary α) (keysBefore : keys before = keys before') :
      keys (extend before more) = keys (extendNew before' more) := by
    induction more generalizing before before' with
    | nil => exact keysBefore
    | cons entry more inductionHypothesis =>
      refine inductionHypothesis _ _ ?_
      rw [keys_insert, keys_insertNew, keysBefore]
  exact same entries entries rfl

/-- No key is lost, and none comes from elsewhere. -/
theorem mem_keys_extendNew {entries more : Dictionary α} {key : Text} :
    key ∈ keys (extendNew entries more) ↔ key ∈ keys entries ∨ key ∈ keys more := by
  induction more generalizing entries with
  | nil => simp [extendNew, keys]
  | cons entry more inductionHypothesis =>
    have step : extendNew entries (entry :: more) =
        extendNew (insertNew entries entry.1 entry.2) more := rfl
    rw [step, inductionHypothesis, keys_insertNew, keys_cons, List.mem_cons]
    split
    · rename_i there
      refine ⟨Or.imp_right .inr, ?_⟩
      rintro (before | rfl | later)
      · exact .inl before
      · exact .inl there
      · exact .inr later
    · rw [List.mem_append, List.mem_singleton, or_assoc]

/-- The keys of two dictionaries together are those of either. -/
theorem mem_keys_extend {entries more : Dictionary α} {key : Text} :
    key ∈ keys (extend entries more) ↔ key ∈ keys entries ∨ key ∈ keys more := by
  rw [keys_extend_eq_keys_extendNew, mem_keys_extendNew]

/-! ## Values under keys -/

/-- The first entry decides about its own key. -/
theorem get?_cons (entry : Text × α) (entries : Dictionary α) (key : Text) :
    get? (entry :: entries) key = if key = entry.1 then some entry.2 else get? entries key := by
  obtain ⟨k, value⟩ := entry
  rw [get?, get?, List.lookup_cons]
  by_cases here : key = k
  · simp [here]
  · simp [here, beq_eq_false_iff_ne.mpr here]

/-- A key is looked up in the first of two dictionaries, and then in the second. -/
theorem get?_append (entries more : Dictionary α) (key : Text) :
    get? (entries ++ more) key = (get? entries key).or (get? more key) :=
  List.lookup_append

/-- A key is looked up in vain exactly if it is not there. -/
theorem get?_eq_none_iff {entries : Dictionary α} {key : Text} :
    get? entries key = none ↔ key ∉ keys entries := by
  induction entries with
  | nil => simp [get?, keys]
  | cons entry entries inductionHypothesis =>
    rw [get?_cons, keys_cons, List.mem_cons, not_or]
    split
    · rename_i here
      simp [here]
    · rename_i other
      simp [other, inductionHypothesis]

/-- An insertion changes the value of its own key alone. -/
theorem get?_insert (entries : Dictionary α) (k : Text) (value : α) (key : Text) :
    get? (insert entries k value) key = if key = k then some value else get? entries key := by
  induction entries with
  | nil => rw [insert, get?_cons]
  | cons entry entries inductionHypothesis =>
    rw [insert]
    split
    · rename_i here
      simp only [get?_cons, here]
      split <;> rfl
    · rename_i other
      simp only [get?_cons, inductionHypothesis]
      by_cases first : key = entry.1
      · rw [if_pos first, if_pos first, if_neg (first ▸ other)]
      · rw [if_neg first, if_neg first]

/-- An insertion that replaces nothing gives a value to its own key, unless that has one. -/
theorem get?_insertNew (entries : Dictionary α) (k : Text) (value : α) (key : Text) :
    get? (insertNew entries k value) key =
      (get? entries key).or (if key = k then some value else none) := by
  simp only [insertNew, any_eq_true_iff]
  split
  · rename_i member
    by_cases here : key = k
    · obtain ⟨old, held⟩ := Option.ne_none_iff_exists'.mp fun none =>
        get?_eq_none_iff.mp none member
      simp [here, held]
    · simp [here]
  · rw [get?_append, get?_cons]
    rfl

/-- What is entered anew replaces what was there. -/
theorem get?_extend (entries : Dictionary α) {more : Dictionary α} (distinct : (keys more).Nodup)
    (key : Text) : get? (extend entries more) key = (get? more key).or (get? entries key) := by
  induction more generalizing entries with
  | nil => rfl
  | cons entry more inductionHypothesis =>
    rw [keys_cons, List.nodup_cons] at distinct
    have later := inductionHypothesis (insert entries entry.1 entry.2) distinct.2
    rw [get?_insert] at later
    refine later.trans ?_
    rw [get?_cons]
    split
    · rename_i here
      rw [get?_eq_none_iff.mpr (here ▸ distinct.1)]
      rfl
    · rfl

/-- What is entered only where nothing is leaves what was there. -/
theorem get?_extendNew (entries more : Dictionary α) (key : Text) :
    get? (extendNew entries more) key = (get? entries key).or (get? more key) := by
  induction more generalizing entries with
  | nil => simp [extendNew, get?]
  | cons entry more inductionHypothesis =>
    have later := inductionHypothesis (insertNew entries entry.1 entry.2)
    rw [get?_insertNew, Option.or_assoc] at later
    refine later.trans ?_
    rw [get?_cons]
    split <;> rfl

end HtmlTemplate.Dictionary
