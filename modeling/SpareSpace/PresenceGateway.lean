import SpareSpace.UsersService
import SpareSpace.InterleavedCalls
import Mathlib.Data.Finset.Card

/-!
# The presence of a user

The gateway marks a user online when a first socket connects and offline some
seconds after the last one has gone, unless a socket connects in between.  The
handlers of one user's sockets and the callbacks of the timers they start run
interleaved at every await.  The stored flag is right at rest in every run in
which a write of the wrong value, and a handler that leaves the wrong value,
have a call beside them that can still write the right one.
-/

namespace SpareSpace

open InterleavedCalls TransitionRuns UsersService

/-- The sockets in the room `user:{id}`, the entry of the user in
`offlineTimers`, the timers that have been started and have neither fired nor
been cleared, and what is stored about the user. -/
structure Presence where
  room : Finset Nat
  offlineTimer : Option Nat
  armed : List Nat
  nextTimer : Nat
  account : Account

namespace Presence

def isOnline (presence : Presence) : Bool :=
  presence.account.row .isOnline

/-- Up to the first await of `handleConnection`. -/
def join (presence : Presence) (socket : Nat) : Presence :=
  match presence.offlineTimer with
  | some timer =>
      { presence with
        room := insert socket presence.room
        offlineTimer := none
        armed := presence.armed.erase timer }
  | none => { presence with room := insert socket presence.room }

/-- A socket that disconnects leaves its rooms before the handler runs. -/
def leave (presence : Presence) (socket : Nat) : Presence :=
  { presence with room := presence.room.erase socket }

/-- `setTimeout`, with the timer put into the map. -/
def arm (presence : Presence) : Presence :=
  { presence with
    offlineTimer := some presence.nextTimer
    armed := presence.nextTimer :: presence.armed
    nextTimer := presence.nextTimer + 1 }

def onAccount (presence : Presence) (write : Account → Account) : Presence :=
  { presence with account := write presence.account }

end Presence

/-- The program points of the handlers, each before the step it is named for.
A disconnection that has started a timer goes on as the timer's callback. -/
inductive PresenceCall
  | handleConnection (socket : Nat)
  | fetchJoined (isReconnecting : Bool)
  | joined (isReconnecting : Bool) (sockets : Nat)
  | goOnline
  | deleteOnline
  | handleDisconnect (socket : Nat)
  | fetchLeft
  | left (sockets : Nat)
  | timer (timer : Nat)
  | goOffline
  | deleteOffline
  | forgetTimer
  | done
  deriving DecidableEq, Repr

namespace PresenceCall

/-- The step of a call at a time. -/
def next (now : Int) (presence : Presence) :
    PresenceCall → Option (Presence × PresenceCall)
  | handleConnection socket =>
      some (presence.join socket, fetchJoined presence.offlineTimer.isSome)
  | fetchJoined isReconnecting =>
      some (presence, joined isReconnecting presence.room.card)
  | joined isReconnecting sockets =>
      if sockets = 1 ∧ isReconnecting = false then
        some (presence, goOnline)
      else
        some (presence, done)
  | goOnline =>
      some (presence.onAccount (save (onlineStatus true now)), deleteOnline)
  | deleteOnline => some (presence.onAccount deleteStatus, done)
  | handleDisconnect socket => some (presence.leave socket, fetchLeft)
  | fetchLeft => some (presence, left presence.room.card)
  | left sockets =>
      if sockets = 0 then
        some (presence.arm, timer presence.nextTimer)
      else
        some (presence, done)
  | timer id =>
      if id ∈ presence.armed then
        some ({ presence with armed := presence.armed.erase id }, goOffline)
      else
        none
  | goOffline =>
      some (presence.onAccount (save (onlineStatus false now)), deleteOffline)
  | deleteOffline => some (presence.onAccount deleteStatus, forgetTimer)
  | forgetTimer => some ({ presence with offlineTimer := none }, done)
  | done => none

def starts : PresenceCall → Bool
  | handleConnection _ | handleDisconnect _ => true
  | _ => false

/-- Whether a handler or callback is running; a timer that waits is not. -/
def inFlight : PresenceCall → Bool
  | timer _ | done => false
  | _ => true

/-- The call can still mark the user online. -/
def mayGoOnline : PresenceCall → Prop
  | fetchJoined _ | joined _ _ | goOnline => True
  | _ => False

/-- The call can still mark the user offline. -/
def mayGoOffline (presence : Presence) : PresenceCall → Prop
  | fetchLeft | goOffline => True
  | left sockets => sockets = 0
  | timer id => id ∈ presence.armed
  | _ => False

end PresenceCall

/-- Handlers and callbacks of one user's sockets. -/
def presenceSystem : System Presence PresenceCall Int where
  starts := PresenceCall.starts
  next := PresenceCall.next

namespace PresenceCall

/-- A write of the value that disagrees with the room is made, and a value that
disagrees with it is left by a connection, only while another call can still
write the other value. -/
def WritesInTurn (config : Config Presence PresenceCall) :
    Move PresenceCall Int → Prop
  | .spawn _ => True
  | .act index _ =>
      match config.calls[index]? with
      | some goOnline =>
          config.store.room = ∅ →
            Another config.calls index (mayGoOffline config.store)
      | some goOffline =>
          config.store.room ≠ ∅ → Another config.calls index mayGoOnline
      | some (joined isReconnecting sockets) =>
          ¬ (sockets = 1 ∧ isReconnecting = false) → config.store.room ≠ ∅ →
            config.store.isOnline = true ∨
              Another config.calls index mayGoOnline
      | _ => True

/-- An empty room has an offline user, or somebody who will say so; an occupied
one has an online user, or somebody who will say so. -/
structure Converging (config : Config Presence PresenceCall) : Prop where
  empty : config.store.room = ∅ → config.store.isOnline = false ∨
    ∃ call ∈ config.calls, call.mayGoOffline config.store
  occupied : config.store.room ≠ ∅ → config.store.isOnline = true ∨
    ∃ call ∈ config.calls, call.mayGoOnline

section Step

variable {presence after : Presence} {calls : List PresenceCall} {index : Nat}
  {now : Int} {call moved : PresenceCall}

/-- The two halves of the invariant as one call sees them: it is itself the one
that can still write the right value, or another call is. -/
structure Sees (presence : Presence) (calls : List PresenceCall) (index : Nat)
    (call : PresenceCall) : Prop where
  empty : presence.room = ∅ → presence.isOnline = false ∨
    call.mayGoOffline presence ∨ Another calls index (mayGoOffline presence)
  occupied : presence.room ≠ ∅ → presence.isOnline = true ∨
    call.mayGoOnline ∨ Another calls index mayGoOnline

theorem Converging.sees (converging : Converging ⟨presence, calls⟩)
    (found : calls[index]? = some call) : Sees presence calls index call :=
  ⟨fun empty => (converging.empty empty).imp_right
      (exists_iff_self_or_another found).mp,
    fun occupied => (converging.occupied occupied).imp_right
      (exists_iff_self_or_another found).mp⟩

theorem Sees.converging (found : calls[index]? = some call)
    (sees : Sees after calls index moved) :
    Converging ⟨after, calls.set index moved⟩ :=
  ⟨fun empty => (sees.empty empty).imp_right (exists_set_iff found).mpr,
    fun occupied => (sees.occupied occupied).imp_right
      (exists_set_iff found).mpr⟩

/-- Whoever can still mark the user offline can do so while the armed timers
are armed. -/
theorem mayGoOffline_mono {other : PresenceCall}
    (armed : ∀ id ∈ presence.armed, id ∈ after.armed)
    (may : other.mayGoOffline presence) : other.mayGoOffline after := by
  cases other with
  | timer id => exact armed id may
  | left sockets => exact may
  | fetchLeft | goOffline => exact trivial
  | _ => contradiction

/-- A step that leaves the room and the flag alone and disarms no timer only
has to hand on what its call could do. -/
theorem Sees.quiet (sees : Sees presence calls index call)
    (room : after.room = presence.room)
    (isOnline : after.isOnline = presence.isOnline)
    (armed : ∀ id ∈ presence.armed, id ∈ after.armed)
    (offline : presence.room = ∅ → call.mayGoOffline presence →
      moved.mayGoOffline after)
    (online : presence.room ≠ ∅ → call.mayGoOnline →
      presence.isOnline = true ∨ moved.mayGoOnline ∨
        Another calls index mayGoOnline) : Sees after calls index moved := by
  constructor
  · intro empty
    rw [room] at empty
    rw [isOnline]
    rcases sees.empty empty with already | mine | others
    · exact Or.inl already
    · exact Or.inr (Or.inl (offline empty mine))
    · exact Or.inr (Or.inr (others.imp fun _ => mayGoOffline_mono armed))
  · intro occupied
    rw [room] at occupied
    rw [isOnline]
    rcases sees.occupied occupied with already | mine | others
    · exact Or.inl already
    · exact online occupied mine
    · exact Or.inr (Or.inr others)

theorem room_join_ne_empty (presence : Presence) (socket : Nat) :
    (presence.join socket).room ≠ ∅ := by
  unfold Presence.join
  cases presence.offlineTimer <;> exact Finset.insert_ne_empty _ _

theorem Sees.next (sees : Sees presence calls index call)
    (found : calls[index]? = some call)
    (inTurn : WritesInTurn ⟨presence, calls⟩ (.act index now))
    (moves : PresenceCall.next now presence call = some (after, moved)) :
    Sees after calls index moved := by
  simp only [WritesInTurn, found] at inTurn
  cases call with
  | handleConnection socket =>
      obtain ⟨rfl, rfl⟩ := Prod.mk.inj (Option.some.inj moves)
      exact ⟨fun empty => absurd empty (room_join_ne_empty presence socket),
        fun _ => Or.inr (Or.inl trivial)⟩
  | fetchJoined isReconnecting =>
      obtain ⟨rfl, rfl⟩ := Prod.mk.inj (Option.some.inj moves)
      exact sees.quiet rfl rfl (fun _ armed => armed) (fun _ => False.elim)
        fun _ _ => Or.inr (Or.inl trivial)
  | joined isReconnecting sockets =>
      simp only [PresenceCall.next] at moves
      split at moves
      · obtain ⟨rfl, rfl⟩ := Prod.mk.inj (Option.some.inj moves)
        exact sees.quiet rfl rfl (fun _ armed => armed) (fun _ => False.elim)
          fun _ _ => Or.inr (Or.inl trivial)
      · next ends =>
          obtain ⟨rfl, rfl⟩ := Prod.mk.inj (Option.some.inj moves)
          exact sees.quiet rfl rfl (fun _ armed => armed) (fun _ => False.elim)
            fun occupied _ => (inTurn ends occupied).imp_right Or.inr
  | goOnline =>
      obtain ⟨rfl, rfl⟩ := Prod.mk.inj (Option.some.inj moves)
      refine ⟨fun empty => Or.inr (Or.inr ?_), fun _ => Or.inl rfl⟩
      exact (inTurn empty).imp fun _ => mayGoOffline_mono fun _ armed => armed
  | handleDisconnect socket =>
      obtain ⟨rfl, rfl⟩ := Prod.mk.inj (Option.some.inj moves)
      refine ⟨fun _ => Or.inr (Or.inl trivial), fun occupied => ?_⟩
      have before : presence.room ≠ ∅ := by
        intro empty
        apply occupied
        simp [Presence.leave, empty]
      exact (sees.occupied before).imp_right fun may => may.imp_left False.elim
  | fetchLeft =>
      obtain ⟨rfl, rfl⟩ := Prod.mk.inj (Option.some.inj moves)
      exact sees.quiet rfl rfl (fun _ armed => armed)
        (fun empty _ => by rw [empty]; exact Finset.card_empty)
        fun _ => False.elim
  | left sockets =>
      simp only [PresenceCall.next] at moves
      split at moves
      · obtain ⟨rfl, rfl⟩ := Prod.mk.inj (Option.some.inj moves)
        exact sees.quiet rfl rfl (fun _ armed => List.mem_cons_of_mem _ armed)
          (fun _ _ => List.mem_cons_self) fun _ => False.elim
      · next some =>
          obtain ⟨rfl, rfl⟩ := Prod.mk.inj (Option.some.inj moves)
          exact sees.quiet rfl rfl (fun _ armed => armed)
            (fun _ none => absurd none some) fun _ => False.elim
  | timer id =>
      simp only [PresenceCall.next] at moves
      split at moves
      · obtain ⟨rfl, rfl⟩ := Prod.mk.inj (Option.some.inj moves)
        refine ⟨fun _ => Or.inr (Or.inl trivial), fun occupied => ?_⟩
        exact (sees.occupied occupied).imp_right fun may => may.imp_left False.elim
      · contradiction
  | goOffline =>
      obtain ⟨rfl, rfl⟩ := Prod.mk.inj (Option.some.inj moves)
      exact ⟨fun _ => Or.inl rfl,
        fun occupied => Or.inr (Or.inr (inTurn occupied))⟩
  | deleteOnline | deleteOffline | forgetTimer =>
      obtain ⟨rfl, rfl⟩ := Prod.mk.inj (Option.some.inj moves)
      exact sees.quiet rfl rfl (fun _ armed => armed) (fun _ => False.elim)
        fun _ => False.elim
  | done => contradiction

end Step

theorem Converging.step {config after : Config Presence PresenceCall}
    {label : Move PresenceCall Int} (converging : Converging config)
    (inTurn : WritesInTurn config label)
    (taken : presenceSystem.step config label = some after) :
    Converging after := by
  cases label with
  | spawn call =>
      obtain ⟨_, rfl⟩ := System.step_spawn taken
      constructor
      · intro empty
        refine (converging.empty empty).imp_right ?_
        rintro ⟨other, present, may⟩
        exact ⟨other, List.mem_append_left _ present, may⟩
      · intro occupied
        refine (converging.occupied occupied).imp_right ?_
        rintro ⟨other, present, may⟩
        exact ⟨other, List.mem_append_left _ present, may⟩
  | act index now =>
      obtain ⟨call, store, moved, found, moves, rfl⟩ := System.step_act taken
      exact ((converging.sees found).next found inTurn moves).converging found

/-- No handler or callback is running and no timer is armed. -/
structure AtRest (config : Config Presence PresenceCall) : Prop where
  noCalls : ∀ call ∈ config.calls, call.inFlight = false
  noTimers : config.store.armed = []

end PresenceCall

open PresenceCall

/-- In every run whose writes are in turn, every state at rest has a user who
is online exactly if some socket is in the room. -/
theorem presence_converges {start config : Config Presence PresenceCall}
    (right : start.store.isOnline = true ↔ start.store.room ≠ ∅)
    (run : Run presenceSystem.step WritesInTurn start config)
    (rest : AtRest config) :
    config.store.isOnline = true ↔ config.store.room ≠ ∅ := by
  have starting : Converging start := by
    constructor
    · intro empty
      left
      rw [Bool.eq_false_iff]
      exact fun online => right.mp online empty
    · exact fun occupied => Or.inl (right.mpr occupied)
  have converging : Converging config :=
    Run.invariant Converging starting
      (fun _ _ _ converging inTurn taken => converging.step inTurn taken) run
  constructor
  · intro online empty
    rcases converging.empty empty with offline | ⟨call, present, may⟩
    · rw [online] at offline
      contradiction
    · have still := rest.noCalls call present
      cases call with
      | timer id =>
          have armed : id ∈ config.store.armed := may
          rw [rest.noTimers] at armed
          contradiction
      | _ => contradiction
  · intro occupied
    rcases converging.occupied occupied with online | ⟨call, present, may⟩
    · exact online
    · have still := rest.noCalls call present
      cases call <;> contradiction

/-- Nobody is connected, and the user is offline. -/
private def presenceStart : Config Presence PresenceCall where
  store := ⟨∅, none, [], 0,
    (newAccount (newRow "+79001234567" "password" "Ivan" "Petrov" none 0) 1).account⟩
  calls := []

private theorem presenceStart_right :
    presenceStart.store.isOnline = true ↔ presenceStart.store.room ≠ ∅ := by
  constructor
  · intro online
    have offline : presenceStart.store.isOnline = false := rfl
    rw [offline] at online
    contradiction
  · exact fun occupied => absurd rfl occupied

private def writesInTurn (config : Config Presence PresenceCall) :
    Move PresenceCall Int → Bool
  | .spawn _ => true
  | .act index _ =>
      match config.calls[index]? with
      | some goOnline => config.store.room != ∅
      | some goOffline => config.store.room == ∅
      | some (joined isReconnecting sockets) =>
          (sockets == 1 && isReconnecting == false) || config.store.isOnline ||
            (config.others index).contains goOnline
      | _ => true

private theorem writesInTurn_of_check (config : Config Presence PresenceCall)
    (label : Move PresenceCall Int) (checked : writesInTurn config label = true) :
    WritesInTurn config label := by
  cases label with
  | spawn => trivial
  | act index now =>
      simp only [writesInTurn, WritesInTurn] at checked ⊢
      split
      · next stood =>
          simp only [stood, bne_iff_ne, ne_eq] at checked
          exact fun empty => absurd empty checked
      · next stood =>
          simp only [stood, beq_iff_eq] at checked
          exact fun occupied => absurd checked occupied
      · next isReconnecting sockets stood =>
          simp only [stood, Bool.or_eq_true, Bool.and_eq_true, beq_iff_eq,
            List.contains_iff_mem] at checked
          intro ends _
          rcases checked with (goes | online) | another
          · exact absurd goes ends
          · exact Or.inl online
          · exact Or.inr (another_of_mem_others another trivial)
      · trivial

/-- Two sockets connect at once and disconnect at once; the timer marks the user offline, and
a third socket connects. -/
private def reconnects : List (Move PresenceCall Int) :=
  [.spawn (.handleConnection 1), .act 0 0, .act 0 0, .spawn (.handleConnection 2), .act 1 0,
    .act 0 0, .act 1 0, .act 1 0, .act 0 0, .act 0 0,
    .spawn (.handleDisconnect 1), .spawn (.handleDisconnect 2), .act 2 1, .act 2 1, .act 3 1,
    .act 2 1, .act 3 1, .act 3 1, .act 3 5001, .act 3 5001, .act 3 5001, .act 3 5001,
    .spawn (.handleConnection 3), .act 4 6000, .act 4 6000, .act 4 6000, .act 4 6000,
    .act 4 6000]

theorem presence_converges_sample :
    ∃ config, Run presenceSystem.step WritesInTurn presenceStart config ∧
      config.store.room = {3} ∧ AtRest config ∧
        (config.store.isOnline = true ↔ config.store.room ≠ ∅) := by
  have reached : Run presenceSystem.step WritesInTurn presenceStart _ :=
    Run.start.executeChecked writesInTurn writesInTurn_of_check reconnects rfl
  exact ⟨_, reached, by decide, ⟨by decide, rfl⟩,
    presence_converges presenceStart_right reached ⟨by decide, rfl⟩⟩

/-- A socket that connects while the timer's callback is about to write finds
the timer in the map and does not write; the callback then does. -/
theorem reconnection_during_callback_is_offline :
    ¬ ∀ start config : Config Presence PresenceCall,
      (start.store.isOnline = true ↔ start.store.room ≠ ∅) →
        Reachable presenceSystem.step start config → AtRest config →
          (config.store.isOnline = true ↔ config.store.room ≠ ∅) := by
  intro converges
  have reached := reachable_of_execute presenceSystem.step presenceStart
    [.spawn (.handleConnection 1), .act 0 0, .act 0 0, .act 0 0, .act 0 0, .act 0 0,
      .spawn (.handleDisconnect 1), .act 1 1, .act 1 1, .act 1 1, .act 1 5001,
      .spawn (.handleConnection 2), .act 2 5001, .act 2 5001, .act 2 5001,
      .act 1 5002, .act 1 5002, .act 1 5002] rfl
  have online := (converges _ _ presenceStart_right reached ⟨by decide, rfl⟩).mpr (by decide)
  contradiction

end SpareSpace
