/-!
# `Proofs.History` — places in histories

A history is a list that grows at the end. To say what held when something happened, a history is
split at it, into what came before and what came after.

## Contents
- `split_append`: a place in a history that has grown is old or new.
- `split_concat`, `split_pair`: the same for one more entry, and for a history of two.
-/

namespace HexWorld

variable {α : Type} {xs ys past rest : List α} {m x y : α}

theorem split_append (h : xs ++ ys = past ++ m :: rest) :
    (∃ before, past = xs ++ before ∧ ys = before ++ m :: rest) ∨
    ∃ after, xs = past ++ m :: after ∧ rest = after ++ ys := by
  rcases List.append_eq_append_iff.mp h with ⟨before, eq, split⟩ | ⟨after, eq, split⟩
  · exact .inl ⟨before, eq, split⟩
  · cases after with
    | nil =>
        -- The place is the first of the new ones.
        rw [List.append_nil] at eq
        exact .inl ⟨[], by rw [List.append_nil, eq], split.symm⟩
    | cons _ after =>
        obtain ⟨rfl, rfl⟩ := List.cons.inj split
        exact .inr ⟨after, eq, rfl⟩

theorem split_concat (h : xs ++ [x] = past ++ m :: rest) :
    (past = xs ∧ m = x ∧ rest = []) ∨ ∃ after, xs = past ++ m :: after ∧ rest = after ++ [x] := by
  rcases split_append h with ⟨before, rfl, last⟩ | old
  · refine .inl ?_
    cases before with
    | nil =>
        cases last
        exact ⟨List.append_nil xs, rfl, rfl⟩
    | cons _ before => simp at last
  · exact .inr old

theorem split_pair (h : [x, y] = past ++ m :: rest) :
    (past = [] ∧ m = x ∧ rest = [y]) ∨ (past = [x] ∧ m = y ∧ rest = []) := by
  have last : [x] ++ [y] = past ++ m :: rest := h
  rcases split_concat last with now | ⟨after, first, rfl⟩
  · exact .inr now
  · have only : [] ++ [x] = past ++ m :: after := first
    rcases split_concat only with ⟨rfl, rfl, rfl⟩ | ⟨after, none, -⟩
    · exact .inl ⟨rfl, rfl, rfl⟩
    · simp at none

end HexWorld
