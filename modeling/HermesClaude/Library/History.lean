/-
# Properties of histories

A history is a list of events, the most recent one last.  What a program remembers of its
history is often a law of the form *since*: something has happened, and nothing that undoes
it came after.  Such a law is decided event by event, and so is what is asked of every
event in view of the ones before it.

Nothing here refers to a particular program.
-/

import Mathlib.Data.List.Basic
import Mathlib.Data.List.Induction

namespace HermesClaude.Library

universe u v

variable {α : Type u} {β : Type v}

/-- A marking event has happened, and every event after it keeps the mark. -/
def Since (marks keeps : α → Prop) (history : List α) : Prop :=
  ∃ before event after, history = before ++ event :: after ∧ marks event ∧ ∀ x ∈ after, keeps x

/-- Every event has a property in view of the events before it. -/
def Along (allows : List α → α → Prop) (history : List α) : Prop :=
  ∀ before event after, history = before ++ event :: after → allows before event

variable {marks keeps : α → Prop} {allows : List α → α → Prop} {history : List α} {event : α}

theorem not_since_nil : ¬ Since marks keeps [] := by
  rintro ⟨before, event, after, heq, -⟩
  cases before <;> cases heq

/-- **Recurrence of a since-law.** -/
theorem since_snoc :
    Since marks keeps (history ++ [event]) ↔
      marks event ∨ (Since marks keeps history ∧ keeps event) := by
  constructor
  · rintro ⟨before, marked, after, heq, hmarks, hkeeps⟩
    rcases List.eq_nil_or_concat after with rfl | ⟨after, last, rfl⟩
    · obtain ⟨-, hlast⟩ := List.append_inj' heq rfl
      cases hlast
      exact .inl hmarks
    · rw [List.concat_eq_append, ← List.cons_append, ← List.append_assoc] at heq
      obtain ⟨hhistory, hlast⟩ := List.append_inj' heq rfl
      cases hlast
      rw [List.concat_eq_append] at hkeeps
      refine .inr ⟨⟨before, marked, after, hhistory, hmarks, ?_⟩, ?_⟩
      · intro x hx
        exact hkeeps x (List.mem_append_left _ hx)
      · exact hkeeps event (List.mem_append_right _ (List.mem_singleton_self event))
  · intro h
    rcases h with hmarks | ⟨⟨before, marked, after, rfl, hmarks, hkeeps⟩, hlast⟩
    · refine ⟨history, event, [], rfl, hmarks, ?_⟩
      intro x hx
      cases hx
    · refine ⟨before, marked, after ++ [event], by simp, hmarks, ?_⟩
      intro x hx
      rcases List.mem_append.mp hx with hx | hx
      · exact hkeeps x hx
      · rw [List.mem_singleton.mp hx]
        exact hlast

theorem since_snoc_of_marks (h : marks event) : Since marks keeps (history ++ [event]) :=
  since_snoc.mpr (.inl h)

/-- An event that neither marks nor undoes anything changes nothing. -/
theorem since_snoc_of_quiet (hmarks : ¬ marks event) (hkeeps : keeps event) :
    Since marks keeps (history ++ [event]) ↔ Since marks keeps history := by
  rw [since_snoc]
  simp [hmarks, hkeeps]

/-- An event that undoes the mark and does not set it anew. -/
theorem not_since_snoc (hmarks : ¬ marks event) (hkeeps : ¬ keeps event) :
    ¬ Since marks keeps (history ++ [event]) := by
  rw [since_snoc]
  simp [hmarks, hkeeps]

theorem along_nil : Along allows [] := by
  intro before event after heq
  cases before <;> cases heq

/-- **Recurrence of what is asked of every event.** -/
theorem along_snoc :
    Along allows (history ++ [event]) ↔ Along allows history ∧ allows history event := by
  constructor
  · intro h
    refine ⟨?_, h history event [] rfl⟩
    intro before x after heq
    exact h before x (after ++ [event]) (by rw [heq]; simp)
  · intro h before x after heq
    rcases List.eq_nil_or_concat after with rfl | ⟨after, last, rfl⟩
    · obtain ⟨hhistory, hlast⟩ := List.append_inj' heq rfl
      cases hlast
      exact hhistory ▸ h.2
    · rw [List.concat_eq_append, ← List.cons_append, ← List.append_assoc] at heq
      obtain ⟨hhistory, -⟩ := List.append_inj' heq rfl
      exact h.1 before x after hhistory

/-- What is asked of every event is asked of every event of the beginning. -/
theorem Along.before {before after : List α} (h : Along allows (before ++ after)) :
    Along allows before := by
  intro earlier x later heq
  exact h earlier x (later ++ after) (by rw [heq]; simp)

/-- **Refinement rule for folds.** Where a fold's state reflects the history so far, and a
step keeps that up for every event that is allowed, it reflects every history of allowed
events. -/
theorem reflects_foldl {step : β → α → β} {start : β} {Reflects : List α → β → Prop}
    (hstart : Reflects [] start)
    (hstep : ∀ {before event state}, Reflects before state → allows before event →
      Reflects (before ++ [event]) (step state event))
    (hallows : Along allows history) : Reflects history (history.foldl step start) := by
  induction history using List.reverseRecOn with
  | nil => exact hstart
  | append_singleton before event ih =>
    obtain ⟨hbefore, hevent⟩ := along_snoc.mp hallows
    rw [List.foldl_append]
    exact hstep (ih hbefore) hevent

end HermesClaude.Library
