import SpareSpace.AuthOutcomes
import SpareSpace.TransitionRuns

/-!
# Proof of a phone

Digits prove a phone while they are the ones that the last request for this
phone has stored, their time is not over and the phone has not been verified
since.  The cache keeps exactly these digits.  The check of the digits lets
every caller through who gives `0000`, so a verification implies the proof
except where that is the only reason for its success.
-/

namespace SpareSpace

open Fallible AuthState TransitionRuns

/-- What the requests served so far say about a phone; a request that throws
says nothing. -/
inductive PhoneEvent
  | stored (cleanedPhone digits : String) (time : Int)
  | verified (cleanedPhone : String)
  deriving DecidableEq, Repr

def PhoneEvent.cleanedPhone : PhoneEvent → String
  | stored cleanedPhone _ _ | verified cleanedPhone => cleanedPhone

/-- The state of the service with the events so far, the last one first. -/
structure PhoneWatch where
  state : AuthState
  events : List PhoneEvent

namespace PhoneWatch

variable (config : AuthConfig) (crypto : Crypto)

/-- The event of a request that has returned. -/
def event (environment : AuthEnvironment) : AuthRequest → Option PhoneEvent
  | .requestFlashCall phone =>
      (AuthService.orderCall config environment).toOption.map fun digits =>
        .stored (cleanPhoneNumber phone) digits environment.now
  | .verifyFlashCall phone _ => some (.verified (cleanPhoneNumber phone))
  | _ => none

/-- The events after one more request. -/
def record (environment : AuthEnvironment) (request : AuthRequest)
    (events : List PhoneEvent) :
    Except AuthException AuthResponse → List PhoneEvent
  | .ok _ => (event config environment request).toList ++ events
  | .error _ => events

/-- Serve a request and note what it says about phones. -/
def step (watch : PhoneWatch) (label : AuthEnvironment × AuthRequest) :
    Option PhoneWatch :=
  let served := run (label.2.serve config crypto label.1) watch.state
  some ⟨served.2, record config label.1 label.2 watch.events served.1⟩

/-- The digits that prove a phone are these, stored no more than the life time
of the entry ago; there is no later event about the phone. -/
def Proves (events : List PhoneEvent) (cleanedPhone digits : String)
    (now : Int) : Prop :=
  ∃ since time earlier,
    events = since ++ .stored cleanedPhone digits time :: earlier ∧
      (∀ event ∈ since, event.cleanedPhone ≠ cleanedPhone) ∧
        now ≤ time + AuthService.flashCallCacheTtlSec * 1000

/-- The cache entry that a list of events leaves for a phone. -/
def standing (cleanedPhone : String) : List PhoneEvent → Cached String
  | [] => none
  | .stored phone digits time :: earlier =>
      if phone = cleanedPhone then
        RedisService.entry time AuthService.flashCallCacheTtlSec digits
      else
        standing cleanedPhone earlier
  | .verified phone :: earlier =>
      if phone = cleanedPhone then none else standing cleanedPhone earlier

variable {config crypto} {cleanedPhone digits : String} {now : Int}

/-- Digits that can be read from the entry left by the events prove the
phone. -/
theorem proves_of_standing {events : List PhoneEvent}
    (read : RedisService.get now (standing cleanedPhone events) = some digits) :
    Proves events cleanedPhone digits now := by
  induction events with
  | nil => contradiction
  | cons event earlier ih =>
      have other (different : event.cleanedPhone ≠ cleanedPhone)
          (later : Proves earlier cleanedPhone digits now) :
          Proves (event :: earlier) cleanedPhone digits now := by
        obtain ⟨since, time, before, rfl, others, live⟩ := later
        refine ⟨event :: since, time, before, rfl, ?_, live⟩
        intro unrelated present
        rcases List.mem_cons.mp present with rfl | old
        · exact different
        · exact others unrelated old
      cases event with
      | stored phone stored time =>
          unfold standing at read
          split at read
          · next same =>
              obtain ⟨_, kept, live⟩ := RedisService.eq_of_get read
              obtain ⟨rfl, rfl⟩ := CacheEntry.mk.inj (Option.some.inj kept)
              exact ⟨[], time, earlier, by rw [same]; rfl, nofun, live⟩
          · next different => exact other different (ih read)
      | verified phone =>
          unfold standing at read
          split at read
          · contradiction
          · next different => exact other different (ih read)

theorem get_of_proves {events : List PhoneEvent}
    (proven : Proves events cleanedPhone digits now) :
    RedisService.get now (standing cleanedPhone events) = some digits := by
  obtain ⟨since, time, earlier, rfl, others, live⟩ := proven
  induction since with
  | nil => simp [standing, RedisService.entry, RedisService.get, live]
  | cons event since ih =>
      have different := others event List.mem_cons_self
      have later := ih fun other present =>
        others other (List.mem_cons_of_mem _ present)
      cases event with
      | stored phone stored time =>
          simpa [standing, show phone ≠ cleanedPhone from different] using later
      | verified phone =>
          simpa [standing, show phone ≠ cleanedPhone from different] using later

/-- The cache holds what the events say. -/
def Recorded (watch : PhoneWatch) : Prop :=
  ∀ cleanedPhone,
    watch.state.flashCalls cleanedPhone = standing cleanedPhone watch.events

section Requests

variable {environment : AuthEnvironment} {request : AuthRequest}

/-- The requests that write the digits kept for phones. -/
def WritesDigits : AuthRequest → Prop
  | .requestFlashCall _ | .verifyFlashCall _ _ => True
  | _ => False

/-- The digits of all phones are as before. -/
def SameDigits (before after : AuthState) : Prop :=
  after.flashCalls = before.flashCalls

theorem SameDigits.bind {α β : Type} {call : AuthCall α}
    {rest : α → AuthCall β} {state : AuthState}
    (first : SameDigits state (run call state).2)
    (later : ∀ value next, run call state = (.ok value, next) →
      SameDigits next (run (rest value) next).2) :
    SameDigits state (run (call >>= rest) state).2 :=
  @related_bind _ _ _ _ SameDigits (fun first second => Eq.trans second first)
    _ _ _ first later

theorem sameDigits_verifyTwoFactor (config : AuthConfig) (crypto : Crypto)
    (environment : AuthEnvironment) (token : Jwt) (code : String)
    (state : AuthState) :
    SameDigits state
      (run (AuthService.verifyTwoFactor config crypto environment token code)
        state).2 := by
  unfold AuthService.verifyTwoFactor
  refine SameDigits.bind rfl ?_
  intro payload verified _
  cases payload with
  | access | register => rfl
  | twoFactor userId =>
      refine SameDigits.bind ?_ ?_
      · unfold AuthService.validateCode
        split
        · exact flashCalls_onAccount
        · split
          · exact flashCalls_onAccount
          · rfl
      · intro valid next _
        cases valid with
        | true =>
            exact (AuthService.steady_issueTokens config crypto environment
              userId next).flashCalls
        | false => rfl

/-- All other requests leave the digits alone. -/
theorem sameDigits_serve (config : AuthConfig) (crypto : Crypto)
    (environment : AuthEnvironment) (state : AuthState)
    (other : ¬ WritesDigits request) :
    SameDigits state
      (run (request.serve config crypto environment) state).2 := by
  cases request with
  | requestFlashCall phone => exact absurd trivial other
  | verifyFlashCall phone lastFourDigits => exact absurd trivial other
  | completeRegistration dto =>
      exact (AuthService.completeRegistration_spec config crypto environment
        dto state).1.flashCalls
  | login dto =>
      exact (AuthService.login_spec config crypto environment dto state).1.flashCalls
  | refresh refreshToken =>
      exact (AuthService.steady_refresh config crypto environment refreshToken
        state).flashCalls
  | logout refreshToken =>
      exact (AuthService.steady_logout crypto environment refreshToken
        state).flashCalls
  | verifyTwoFactor twoFactorToken code =>
      exact sameDigits_verifyTwoFactor config crypto environment twoFactorToken
        code state
  | generateSecret userId => exact SameDigits.bind flashCalls_onAccount fun _ _ _ => rfl
  | enableTwoFactor userId code => exact SameDigits.bind flashCalls_onAccount fun _ _ _ => rfl
  | disableTwoFactor userId code => exact SameDigits.bind flashCalls_onAccount fun _ _ _ => rfl

/-- A step keeps the cache in accord with the events. -/
theorem Recorded.step {watch after : PhoneWatch}
    {label : AuthEnvironment × AuthRequest} (recorded : watch.Recorded)
    (taken : watch.step config crypto label = some after) : after.Recorded := by
  obtain ⟨environment, request⟩ := label
  obtain rfl := Option.some.inj taken
  intro cleanedPhone
  have before := recorded cleanedPhone
  by_cases writes : WritesDigits request
  · cases request with
    | requestFlashCall phone =>
        cases ordered : AuthService.orderCall config environment with
        | error error =>
            simpa [AuthRequest.serve, AuthService.requestFlashCall, run_bind,
              run_lift, ordered, record] using before
        | ok digits =>
            simp only [AuthRequest.serve, AuthService.requestFlashCall, run_bind,
              run_lift, run_updates, run_pure, ordered, record, event,
              Except.toOption, Option.map_some, Option.toList_some,
              List.singleton_append, standing, Function.update_apply]
            by_cases same : cleanedPhone = cleanPhoneNumber phone
            · rw [if_pos same, if_pos same.symm]
            · rw [if_neg same, if_neg (Ne.symm same)]
              exact before
    | verifyFlashCall phone lastFourDigits =>
        cases passed : AuthService.checkDigits environment watch.state
            (cleanPhoneNumber phone) lastFourDigits with
        | error error =>
            simpa [AuthRequest.serve, AuthService.verifyFlashCall_error passed,
              record] using before
        | ok =>
            obtain ⟨response, after, ran, steady, _⟩ :=
              AuthService.verifyFlashCall_ok config crypto passed
            simp only [AuthRequest.serve, ran, record, event, Option.toList_some,
              List.singleton_append, standing, steady.flashCalls,
              AuthService.usedUp, Function.update_apply]
            by_cases same : cleanedPhone = cleanPhoneNumber phone
            · rw [if_pos same, if_pos same.symm]
            · rw [if_neg same, if_neg (Ne.symm same)]
              exact before
    | _ => contradiction
  · have kept := sameDigits_serve config crypto environment watch.state writes
    have silent : record config environment request watch.events
        (run (request.serve config crypto environment) watch.state).1 =
          watch.events := by
      rcases (run (request.serve config crypto environment) watch.state).1 with
        error | response
      · rfl
      · cases request <;> first | rfl | exact absurd trivial writes
    simp only [silent]
    rw [kept]
    exact before

end Requests

/-- Before any request about a phone, no digits are kept. -/
structure Fresh (watch : PhoneWatch) : Prop where
  noEvents : watch.events = []
  noDigits : ∀ cleanedPhone, watch.state.flashCalls cleanedPhone = none

theorem Fresh.recorded {watch : PhoneWatch} (fresh : watch.Fresh) :
    watch.Recorded := by
  intro cleanedPhone
  rw [fresh.noDigits, fresh.noEvents]
  rfl

end PhoneWatch

namespace AuthService

variable {config : AuthConfig} {crypto : Crypto} {environment : AuthEnvironment}
  {state : AuthState} {phone lastFourDigits : String}

theorem checkDigits_ok_iff {cleanedPhone : String} :
    checkDigits environment state cleanedPhone lastFourDigits = .ok () ↔
      (cachedDigits environment state cleanedPhone = some lastFourDigits ∨
        lastFourDigits = "0000") := by
  unfold checkDigits
  by_cases cached :
    cachedDigits environment state cleanedPhone = some lastFourDigits <;>
      by_cases zeros : lastFourDigits = "0000" <;> simp [cached, zeros]

/-- A verification succeeds with the digits in the cache and with `0000`. -/
theorem verifyFlashCall_succeeds_iff :
    (∃ response after,
      run (verifyFlashCall config crypto environment phone lastFourDigits)
        state = (.ok response, after)) ↔
      (cachedDigits environment state (cleanPhoneNumber phone) =
          some lastFourDigits ∨ lastFourDigits = "0000") := by
  rw [← checkDigits_ok_iff]
  constructor
  · rintro ⟨response, after, ran⟩
    cases passed : checkDigits environment state (cleanPhoneNumber phone)
        lastFourDigits with
    | ok => rfl
    | error error =>
        rw [verifyFlashCall_error passed] at ran
        exact absurd (Prod.mk.inj ran).1 (by simp)
  · intro passed
    obtain ⟨response, after, ran, _⟩ :=
      verifyFlashCall_ok config crypto passed
    exact ⟨response, after, ran⟩

end AuthService

open PhoneWatch

variable {config : AuthConfig} {crypto : Crypto} {start watch : PhoneWatch}

/-- In every state of every run and for every call: success of the
verification means that the digits prove the phone, exactly unless they are
`0000` while the cache does not hold `0000` for the phone. -/
theorem verified_phone_proven_iff (fresh : start.Fresh)
    (run : Reachable (PhoneWatch.step config crypto) start watch)
    (environment : AuthEnvironment) (phone lastFourDigits : String) :
    ((∃ response after,
        Fallible.run (AuthService.verifyFlashCall config crypto environment phone
          lastFourDigits) watch.state = (.ok response, after)) →
      Proves watch.events (cleanPhoneNumber phone) lastFourDigits
        environment.now) ↔
      (lastFourDigits = "0000" →
        AuthService.cachedDigits environment watch.state
          (cleanPhoneNumber phone) = some "0000") := by
  have recorded : watch.Recorded :=
    Run.invariant Recorded fresh.recorded
      (fun _ _ _ recorded _ taken => recorded.step taken) run
  have kept := recorded (cleanPhoneNumber phone)
  rw [AuthService.verifyFlashCall_succeeds_iff]
  constructor
  · rintro proves rfl
    have read := get_of_proves (proves (Or.inr rfl))
    rw [AuthService.cachedDigits, kept, read]
    rfl
  · intro condition success
    have cached : AuthService.cachedDigits environment watch.state
        (cleanPhoneNumber phone) = some lastFourDigits := by
      rcases success with cached | rfl
      · exact cached
      · exact condition rfl
    apply proves_of_standing
    rw [AuthService.cachedDigits, kept, Option.filter_eq_some_iff] at cached
    exact cached.1

/-- A requested call proves the phone for five minutes. -/
theorem verified_phone_proven_iff_sample :
    ∃ watch,
      Reachable (PhoneWatch.step ⟨30, 900, false⟩ Crypto.plain) ⟨.empty, []⟩ watch ∧
        watch.events = [.stored "+79001234567" "4821" 0] ∧
          (((∃ response after,
              Fallible.run (AuthService.verifyFlashCall ⟨30, 900, false⟩
                Crypto.plain (AuthEnvironment.plain 300000 .failed) "+7 (900) 123-45-67"
                "4821") watch.state = (.ok response, after)) →
            Proves watch.events (cleanPhoneNumber "+7 (900) 123-45-67") "4821"
              300000) ↔
            ("4821" = "0000" →
              AuthService.cachedDigits (AuthEnvironment.plain 300000 .failed) watch.state
                (cleanPhoneNumber "+7 (900) 123-45-67") = some "0000")) := by
  have requested : Reachable (PhoneWatch.step ⟨30, 900, false⟩ Crypto.plain)
      ⟨.empty, []⟩ _ :=
    Run.start.step (AuthEnvironment.plain 0 (.ok "4821"),
      .requestFlashCall "+7 900 123 45 67") trivial rfl
  exact ⟨_, requested, by decide,
    verified_phone_proven_iff ⟨rfl, fun _ => rfl⟩ requested
      (AuthEnvironment.plain 300000 .failed) "+7 (900) 123-45-67" "4821"⟩

/-- Without any request, and without the debug mode, `0000` verifies every
phone. -/
theorem zeros_verify_every_phone :
    ¬ ∀ config crypto start watch, PhoneWatch.Fresh start →
      Reachable (PhoneWatch.step config crypto) start watch →
        ∀ environment phone lastFourDigits,
          (∃ response after,
            Fallible.run (AuthService.verifyFlashCall config crypto environment
              phone lastFourDigits) watch.state = (.ok response, after)) →
            Proves watch.events (cleanPhoneNumber phone) lastFourDigits
              environment.now := by
  intro proven
  have read := get_of_proves (proven ⟨30, 900, false⟩ Crypto.plain ⟨.empty, []⟩
    ⟨.empty, []⟩ ⟨rfl, fun _ => rfl⟩ Run.start (AuthEnvironment.plain 0 .failed)
    "+79001234567" "0000"
    (AuthService.verifyFlashCall_succeeds_iff.mpr (Or.inr rfl)))
  contradiction

end SpareSpace
