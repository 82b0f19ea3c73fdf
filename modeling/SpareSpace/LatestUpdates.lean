import Mathlib.Logic.Basic

/-!
# Views kept by updates

A viewer starts from a view and replaces it by each view that an event carries
for this viewer.  If all views carried by some events are the current one, and
there is one unless the viewer shows it already, the viewer shows the current
view after them.
-/

namespace LatestUpdates

variable {Event View Part : Type*}

/-- What a viewer shows after some events. -/
def shown (carries : Event → Option View) (start : View) (events : List Event) :
    View :=
  events.foldl (fun view event => (carries event).getD view) start

variable {carries : Event → Option View} {start current : View}
  {events : List Event}

theorem shown_append (carries : Event → Option View) (start : View)
    (first second : List Event) :
    shown carries start (first ++ second) =
      shown carries (shown carries start first) second :=
  List.foldl_append

/-- A part of what is shown is kept by the same part of the updates. -/
theorem shown_map (part : View → Part) (carries : Event → Option View)
    (start : View) (events : List Event) :
    part (shown carries start events) =
      shown (fun event => (carries event).map part) (part start) events := by
  induction events generalizing start with
  | nil => rfl
  | cons event rest ih =>
      have first : part ((carries event).getD start) =
          ((carries event).map part).getD (part start) := by
        cases carries event <;> rfl
      simp only [shown, List.foldl_cons] at ih ⊢
      rw [ih, first]

theorem shown_eq (exact : ∀ event ∈ events, ∀ view,
      carries event = some view → view = current)
    (complete : start = current ∨ ∃ event ∈ events, carries event = some current) :
    shown carries start events = current := by
  induction events generalizing start with
  | nil =>
      rcases complete with rfl | ⟨event, present, _⟩
      · rfl
      · contradiction
  | cons event rest ih =>
      change shown carries ((carries event).getD start) rest = current
      have later := fun other present => exact other (List.mem_cons_of_mem _ present)
      refine ih later ?_
      cases carried : carries event with
      | some view =>
          exact Or.inl (exact event List.mem_cons_self view carried)
      | none =>
          rcases complete with rfl | ⟨other, present, carried'⟩
          · exact Or.inl rfl
          · rcases List.mem_cons.mp present with rfl | inRest
            · rw [carried] at carried'
              contradiction
            · exact Or.inr ⟨other, inRest, carried'⟩

end LatestUpdates
