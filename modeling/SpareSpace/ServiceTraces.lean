import Mathlib.Logic.Basic

/-!
# Traces of services

A service answers each request in the state it is in and moves on to the next state.  A
list of requests has a trace of responses and a last state.  Two services whose states
stay related while they answer alike have the same traces; so a service that keeps copies
of its data can be compared with one that keeps none.
-/

namespace ServiceTraces

variable {State Plain Request Response : Type*}

/-- The state after a list of requests. -/
def after (serve : State → Request → Response × State) (state : State) :
    List Request → State
  | [] => state
  | request :: rest => after serve (serve state request).2 rest

/-- The responses to a list of requests. -/
def responses (serve : State → Request → Response × State) (state : State) :
    List Request → List Response
  | [] => []
  | request :: rest =>
      (serve state request).1 :: responses serve (serve state request).2 rest

/-- The notes taken of the answered requests of a list. -/
def noted {Note : Type*} (serve : State → Request → Response × State)
    (note : Request → Response → Option Note) (state : State) : List Request → List Note
  | [] => []
  | request :: rest =>
      (note request (serve state request).1).toList ++
        noted serve note (serve state request).2 rest

/-- A condition holds of every request of a list in the state in which it is made. -/
def Throughout (serve : State → Request → Response × State)
    (condition : State → Request → Prop) (state : State) : List Request → Prop
  | [] => True
  | request :: rest =>
      condition state request ∧ Throughout serve condition (serve state request).2 rest

variable {serve : State → Request → Response × State}
  {plain : Plain → Request → Response × Plain}

theorem after_append (state : State) (requests more : List Request) :
    after serve state (requests ++ more) = after serve (after serve state requests) more := by
  induction requests generalizing state with
  | nil => rfl
  | cons request rest ih =>
      simp only [List.cons_append, after]
      apply ih

/-- An invariant that every allowed request keeps holds after every list of them. -/
theorem after_invariant {allowed : Request → Prop} (inv : State → Prop)
    (preserved : ∀ state request, allowed request → inv state → inv (serve state request).2)
    {state : State} (atStart : inv state) {requests : List Request}
    (all : ∀ request ∈ requests, allowed request) : inv (after serve state requests) := by
  induction requests generalizing state with
  | nil => exact atStart
  | cons request rest ih =>
      have next := preserved state request (all request List.mem_cons_self) atStart
      exact ih next fun later present => all later (List.mem_cons_of_mem _ present)

/-- A view that every request changes as a step on views is changed by the requests one
after the other. -/
theorem after_view {View : Type*} {view : State → View} {change : View → Request → View}
    (changes : ∀ state request, view (serve state request).2 = change (view state) request)
    (state : State) (requests : List Request) :
    view (after serve state requests) = requests.foldl change (view state) := by
  induction requests generalizing state with
  | nil => rfl
  | cons request rest ih => rw [after, ih, List.foldl_cons, changes]

theorem throughout_of_forall {condition : State → Request → Prop}
    (holds : ∀ state request, condition state request) (state : State)
    (requests : List Request) : Throughout serve condition state requests := by
  induction requests generalizing state with
  | nil => trivial
  | cons request rest ih => exact ⟨holds state request, ih _⟩

/-- What holds in the last state, and held before each request if it holds after it, held
throughout. -/
theorem throughout_of_last {condition : State → Prop}
    (earlier : ∀ state request, condition (serve state request).2 → condition state)
    {state : State} {requests : List Request}
    (last : condition (after serve state requests)) :
    condition state ∧ Throughout serve (fun state _ => condition state) state requests := by
  induction requests generalizing state with
  | nil => exact ⟨last, trivial⟩
  | cons request rest ih =>
      obtain ⟨next, later⟩ := ih last
      have now := earlier state request next
      exact ⟨now, now, later⟩

section Notes

variable {Note View : Type*} {note : Request → Response → Option Note}

theorem noted_append (state : State) (requests more : List Request) :
    noted serve note state (requests ++ more) =
      noted serve note state requests ++
        noted serve note (after serve state requests) more := by
  induction requests generalizing state with
  | nil => rfl
  | cons request rest ih =>
      simp only [List.cons_append, noted, after, List.append_assoc]
      rw [ih]

/-- A view of the state that changes by what is noted is determined by the notes: it is that
of the first state, changed by one note after the other. -/
theorem view_after {inv : State → Prop} {view : State → View} {change : View → Note → View}
    (changes : ∀ state request, inv state → inv (serve state request).2 ∧
      view (serve state request).2 =
        (note request (serve state request).1).elim (view state) (change (view state)))
    {state : State} (atStart : inv state) (requests : List Request) :
    inv (after serve state requests) ∧
      view (after serve state requests) =
        (noted serve note state requests).foldl change (view state) := by
  induction requests generalizing state with
  | nil => exact ⟨atStart, rfl⟩
  | cons request rest ih =>
      obtain ⟨next, now⟩ := changes state request atStart
      obtain ⟨last, later⟩ := ih next
      apply And.intro last
      simp only [after, noted, List.foldl_append]
      rw [later, now]
      cases note request (serve state request).1 <;> rfl

end Notes

/-- Related states answer a request alike and are related afterwards, where the request
meets a condition in the state of the second service. -/
def Simulates (serve : State → Request → Response × State)
    (plain : Plain → Request → Response × Plain) (related : State → Plain → Prop)
    (condition : Plain → Request → Prop) : Prop :=
  ∀ state abstract request, related state abstract → condition abstract request →
    (serve state request).1 = (plain abstract request).1 ∧
      related (serve state request).2 (plain abstract request).2

variable {related : State → Plain → Prop} {condition : Plain → Request → Prop}

/-- Two services that simulate one another have the same traces. -/
theorem Simulates.traces (simulates : Simulates serve plain related condition)
    {state : State} {abstract : Plain} (atStart : related state abstract)
    {requests : List Request} (met : Throughout plain condition abstract requests) :
    responses serve state requests = responses plain abstract requests ∧
      related (after serve state requests) (after plain abstract requests) := by
  induction requests generalizing state abstract with
  | nil => exact ⟨rfl, atStart⟩
  | cons request rest ih =>
      obtain ⟨same, next⟩ := simulates state abstract request atStart met.1
      obtain ⟨later, last⟩ := ih next met.2
      simp only [responses, after]
      rw [same, later]
      exact ⟨rfl, last⟩

end ServiceTraces
